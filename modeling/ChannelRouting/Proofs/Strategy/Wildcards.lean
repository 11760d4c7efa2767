import ChannelRouting.Strategy
import Mathlib.Data.List.Forall2
import Mathlib.Data.List.Induction

/-!
# The wildcard language

A topic pattern matches a key if the words of the key can be cut into consecutive blocks, one for
each word of the pattern: any block for `#`, a block of one word for `*`, and for any other word
the block of that word alone (`Cuts`). Nothing is said there of how such a cut is found.

`Topic.matchesWords` finds one without trying them all. It keeps a row with an entry for each
length, and what an entry means is the invariant (`getElem?_row`): the words of the pattern so far
cut the first words of the key, that many of them. One more word of the pattern makes a new row,
in one of two ways:

* for `#` an entry is reached if any entry up to it was (`getElem?_spread`);
* for any other word an entry is reached from the one before it, over one word of the key
  (`getElem?_advance_single`).

`topic_matches_iff_cut` is the result, for patterns and for routes. Words are those of
`List.splitOn` (`words_eq_splitOn`), so a text has at least one word, and words may be empty.
-/

namespace ChannelRouting.Topic

/-! ## Words -/

theorem words_ne_nil (l : List Char) : words l ≠ [] := by
  cases l with
  | nil => exact List.cons_ne_nil _ _
  | cons c l =>
    unfold words
    split
    · exact List.cons_ne_nil _ _
    · split <;> exact List.cons_ne_nil _ _

/-- The words of a text are what stands between its dots. -/
theorem words_eq_splitOn (l : List Char) : words l = l.splitOn '.' := by
  induction l with
  | nil => rfl
  | cons c l ih =>
    rw [List.splitOn_cons_eq_if_modifyHead, ← ih, words]
    by_cases dot : c = '.'
    · rw [if_pos dot, if_pos (beq_iff_eq.mpr dot)]
    · rw [if_neg dot, if_neg (mt beq_iff_eq.mp dot)]
      cases rest : words l with
      | nil => exact absurd rest (words_ne_nil l)
      | cons w ws => rfl

/-! ## Cuts -/

/-- Whether a word of a pattern may stand for a block of words. -/
def Takes (word : List Char) (block : List (List Char)) : Prop :=
  if word = ['#'] then True
  else if word = ['*'] then block.length = 1
  else block = [word]

/-- **A key is cut along a pattern**: its words fall into consecutive blocks, one for each word of
the pattern in order. -/
def Cuts (pattern key : List (List Char)) : Prop :=
  ∃ blocks : List (List (List Char)), blocks.flatten = key ∧ List.Forall₂ Takes pattern blocks

theorem cuts_nil {key : List (List Char)} : Cuts [] key ↔ key = [] := by
  constructor
  · rintro ⟨blocks, rfl, none⟩
    rw [List.forall₂_nil_left_iff.mp none]
    rfl
  · rintro rfl
    exact ⟨[], rfl, .nil⟩

/-- A pattern with one more word cuts off one more block. -/
theorem cuts_concat {pattern : List (List Char)} {word : List Char} {key : List (List Char)} :
    Cuts (pattern ++ [word]) key ↔
      ∃ before block, key = before ++ block ∧ Cuts pattern before ∧ Takes word block := by
  constructor
  · rintro ⟨blocks, rfl, cut⟩
    have first : List.Forall₂ Takes pattern (blocks.take pattern.length) :=
      (List.forall₂_take_append _ _ _ cut.flip).flip
    have last : List.Forall₂ Takes [word] (blocks.drop pattern.length) :=
      (List.forall₂_drop_append _ _ _ cut.flip).flip
    obtain ⟨block, others, takes, none, split⟩ := List.forall₂_cons_left_iff.mp last
    rw [List.forall₂_nil_left_iff.mp none] at split
    refine ⟨(blocks.take pattern.length).flatten, block, ?_, ⟨_, rfl, first⟩, takes⟩
    calc blocks.flatten
      _ = (blocks.take pattern.length ++ blocks.drop pattern.length).flatten := by
        rw [List.take_append_drop]
      _ = (blocks.take pattern.length).flatten ++ block := by
        rw [List.flatten_append, split, List.flatten_singleton]
  · rintro ⟨before, block, rfl, ⟨blocks, rfl, cut⟩, takes⟩
    refine ⟨blocks ++ [block], ?_, List.rel_append cut (.cons takes .nil)⟩
    rw [List.flatten_append, List.flatten_singleton]

/-- The first words of a key, cut along a pattern with one more word. -/
theorem cuts_concat_take {pattern : List (List Char)} {word : List Char} {key : List (List Char)}
    {j : Nat} (within : j ≤ key.length) :
    Cuts (pattern ++ [word]) (key.take j) ↔
      ∃ i ≤ j, Cuts pattern (key.take i) ∧ Takes word ((key.take j).drop i) := by
  rw [cuts_concat]
  constructor
  · rintro ⟨before, block, both, cut, takes⟩
    have short : before.length ≤ j := by
      have lengths := congrArg List.length both
      rw [List.length_append, List.length_take] at lengths
      omega
    have first : key.take before.length = before := by
      rw [← Nat.min_eq_left short, ← List.take_take, both, List.take_left]
    refine ⟨before.length, short, ?_, ?_⟩
    · rw [first]
      exact cut
    · rw [both, List.drop_left]
      exact takes
  · rintro ⟨i, below, cut, takes⟩
    refine ⟨key.take i, (key.take j).drop i, ?_, cut, takes⟩
    rw [← Nat.min_eq_left below, ← List.take_take, Nat.min_eq_left below, List.take_append_drop]

/-- A `#` behind a pattern cuts off whatever the pattern leaves. -/
theorem cuts_concat_any {pattern key : List (List Char)} {j : Nat} (within : j ≤ key.length) :
    Cuts (pattern ++ [['#']]) (key.take j) ↔ ∃ i ≤ j, Cuts pattern (key.take i) := by
  rw [cuts_concat_take within]
  refine exists_congr fun i => and_congr_right fun _ => ?_
  exact and_iff_left trivial

theorem length_of_takes {word : List Char} {block : List (List Char)} (single : word ≠ ['#'])
    (takes : Takes word block) : block.length = 1 := by
  unfold Takes at takes
  rw [if_neg single] at takes
  split at takes
  · exact takes
  · rw [takes, List.length_singleton]

/-- Any other word behind a pattern cuts off the last word. -/
theorem cuts_concat_single {pattern key : List (List Char)} {word : List Char} {j : Nat}
    (single : word ≠ ['#']) (within : j < key.length) :
    Cuts (pattern ++ [word]) (key.take (j + 1)) ↔
      Cuts pattern (key.take j) ∧ Takes word [key[j]] := by
  have last : (key.take (j + 1)).drop j = [key[j]] := by
    rw [List.drop_take, Nat.add_sub_cancel_left, List.drop_eq_getElem_cons within]
    rfl
  rw [cuts_concat_take within]
  constructor
  · rintro ⟨i, below, cut, takes⟩
    have length := length_of_takes single takes
    rw [List.length_drop, List.length_take, Nat.min_eq_left within] at length
    obtain rfl : i = j := by omega
    rw [last] at takes
    exact ⟨cut, takes⟩
  · rintro ⟨cut, takes⟩
    refine ⟨j, Nat.le_succ j, cut, ?_⟩
    rw [last]
    exact takes

theorem not_cuts_concat_nil {pattern : List (List Char)} {word : List Char}
    (single : word ≠ ['#']) : ¬ Cuts (pattern ++ [word]) [] := by
  rw [cuts_concat]
  rintro ⟨before, block, none, -, takes⟩
  have length := length_of_takes single takes
  rw [(List.append_eq_nil_iff.mp none.symm).2] at length
  cases length

/-- Every pattern is a key that it cuts, wildcards included. -/
theorem cuts_self (pattern : List (List Char)) : Cuts pattern pattern := by
  refine ⟨pattern.map fun word => [word], ?_, ?_⟩
  · induction pattern with
    | nil => rfl
    | cons word rest ih => rw [List.map_cons, List.flatten_cons, ih, List.singleton_append]
  · rw [List.forall₂_map_right_iff, List.forall₂_same]
    intro word _
    unfold Takes
    split
    · trivial
    · split <;> rfl

/-! ## Rows -/

/-- The entries that are reached once those up to them are gone through. -/
theorem getElem?_spread (seen : Bool) (row : List Bool) (j : Nat) :
    (spread seen row)[j]? = some true ↔
      j < row.length ∧ (seen = true ∨ ∃ i ≤ j, row[i]? = some true) := by
  induction row generalizing seen j with
  | nil => simp [spread]
  | cons b row ih =>
    rw [spread, List.length_cons]
    cases j with
    | zero => simp
    | succ j =>
      rw [List.getElem?_cons_succ, ih, Nat.succ_lt_succ_iff, Bool.or_eq_true, or_assoc]
      refine and_congr_right fun _ => or_congr_right ?_
      constructor
      · rintro (now | ⟨i, below, reached⟩)
        · exact ⟨0, Nat.zero_le _, congrArg some now⟩
        · exact ⟨i + 1, Nat.succ_le_succ below, reached⟩
      · rintro ⟨i, below, reached⟩
        cases i with
        | zero => exact .inl (Option.some.inj reached)
        | succ i => exact .inr ⟨i, Nat.le_of_succ_le_succ below, reached⟩

theorem length_spread (seen : Bool) (row : List Bool) : (spread seen row).length = row.length := by
  induction row generalizing seen with
  | nil => rfl
  | cons b row ih => rw [spread, List.length_cons, List.length_cons, ih]

/-- The words that a word of a pattern accepts are the blocks of one word that it takes. -/
theorem accepts_ofWord {word : List Char} (single : word ≠ ['#']) (w : List Char) :
    (PatternWord.ofWord word).accepts w = true ↔ Takes word [w] := by
  unfold PatternWord.ofWord Takes
  rw [if_neg single, if_neg single]
  by_cases one : word = ['*']
  · rw [if_pos one, if_pos one]
    exact iff_of_true rfl rfl
  · rw [if_neg one, if_neg one, List.singleton_inj]
    exact decide_eq_true_iff.trans eq_comm

theorem ofWord_ne_anyWords {word : List Char} (single : word ≠ ['#']) :
    PatternWord.ofWord word ≠ .anyWords := by
  unfold PatternWord.ofWord
  rw [if_neg single]
  split <;> exact PatternWord.noConfusion

/-- The row after a word that takes up one word of the key. -/
theorem advance_single {p : PatternWord} (single : p ≠ .anyWords) (key : List (List Char))
    (row : List Bool) :
    advance key row p = false :: List.zipWith (fun w reached => reached && p.accepts w) key row := by
  cases p with
  | anyWords => exact absurd rfl single
  | oneWord | literal => rfl

theorem length_advance {key : List (List Char)} {row : List Bool} (p : PatternWord)
    (full : row.length = key.length + 1) : (advance key row p).length = key.length + 1 := by
  by_cases any : p = .anyWords
  · rw [any, advance, length_spread, full]
  · rw [advance_single any, List.length_cons, List.length_zipWith, full,
      Nat.min_eq_left (Nat.le_succ _)]

/-- Such a word goes on by one entry, over a word that it accepts. -/
theorem getElem?_advance_single {key : List (List Char)} {row : List Bool} {p : PatternWord}
    (single : p ≠ .anyWords) {j : Nat} (within : j < key.length) :
    (advance key row p)[j + 1]? = some true ↔
      row[j]? = some true ∧ p.accepts key[j] = true := by
  have word : key[j]? = some key[j] := List.getElem?_eq_getElem within
  rw [advance_single single, List.getElem?_cons_succ, List.getElem?_zipWith, word]
  cases row[j]? with
  | none => simp
  | some reached => simp

/-- The row of a pattern. -/
def row (pattern key : List (List Char)) : List Bool :=
  (pattern.map PatternWord.ofWord).foldl (advance key) (start key)

theorem row_concat (pattern : List (List Char)) (word : List Char) (key : List (List Char)) :
    row (pattern ++ [word]) key = advance key (row pattern key) (.ofWord word) := by
  unfold row
  rw [List.map_append, List.foldl_append]
  rfl

theorem length_row (pattern key : List (List Char)) : (row pattern key).length = key.length + 1 := by
  induction pattern using List.reverseRecOn with
  | nil => rw [row, List.map_nil, List.foldl_nil, start, List.length_cons, List.length_map]
  | append_singleton pattern word ih =>
    rw [row_concat]
    exact length_advance _ ih

/-- **What an entry of a row means**: the pattern cuts that many words of the key. -/
theorem getElem?_row (pattern key : List (List Char)) {j : Nat} (within : j ≤ key.length) :
    (row pattern key)[j]? = some true ↔ Cuts pattern (key.take j) := by
  -- from the end of the pattern, for the row is made by a fold from the left
  induction pattern using List.reverseRecOn generalizing j with
  | nil =>
    have empty : row [] key = true :: key.map fun _ => false := rfl
    rw [cuts_nil, List.take_eq_nil_iff, empty]
    cases j with
    | zero => exact iff_of_true rfl (.inl rfl)
    | succ j =>
      have word : key[j]? = some key[j] := List.getElem?_eq_getElem within
      rw [List.getElem?_cons_succ, List.getElem?_map, word]
      refine iff_of_false (fun reached => by cases reached) ?_
      rintro (zero | rfl)
      · cases zero
      · cases within
  | append_singleton pattern word ih =>
    rw [row_concat]
    by_cases any : word = ['#']
    · have spreads : advance key (row pattern key) (.ofWord word) =
          spread false (row pattern key) := by
        rw [any]
        rfl
      rw [spreads, getElem?_spread, length_row, any, cuts_concat_any within]
      constructor
      · rintro ⟨-, never | ⟨i, below, reached⟩⟩
        · cases never
        · exact ⟨i, below, (ih (by omega)).mp reached⟩
      · rintro ⟨i, below, cut⟩
        exact ⟨by omega, .inr ⟨i, below, (ih (by omega)).mpr cut⟩⟩
    · have single := ofWord_ne_anyWords any
      cases j with
      | zero =>
        rw [advance_single single, List.take_zero]
        exact iff_of_false (fun reached => by cases reached) (not_cuts_concat_nil any)
      | succ j =>
        rw [getElem?_advance_single single within, cuts_concat_single any within,
          ih (Nat.le_of_succ_le within), accepts_ofWord any]

/-- **The matcher decides the wildcard language.** -/
theorem matchesWords_iff (pattern key : List (List Char)) :
    matchesWords (pattern.map .ofWord) key = true ↔ Cuts pattern key := by
  have last : matchesWords (pattern.map .ofWord) key = (row pattern key)[key.length]?.getD false := by
    rw [matchesWords, List.getLast?_eq_getElem?]
    show (row pattern key)[(row pattern key).length - 1]?.getD false = _
    rw [length_row, Nat.add_sub_cancel]
  have meaning := getElem?_row pattern key (Nat.le_refl key.length)
  rw [List.take_length] at meaning
  rw [last, ← meaning]
  cases (row pattern key)[key.length]? with
  | none => simp
  | some reached => simp

instance (pattern key : List (List Char)) : Decidable (Cuts pattern key) :=
  decidable_of_iff _ (matchesWords_iff pattern key)

theorem matches_iff (pattern key : String) :
    «matches» pattern key = true ↔ Cuts (words pattern.toList) (words key.toList) :=
  matchesWords_iff ..

/-- Every pattern matches itself. -/
theorem matches_self (pattern : String) : «matches» pattern pattern = true :=
  (matches_iff pattern pattern).mpr (cuts_self _)

/-- **Topic routing is by cuts.** A pattern matches a key exactly if the words of the key can be cut
along those of the pattern, and a message goes to the targets of the routes that have a key
which cuts its routing key. -/
theorem topic_matches_iff_cut :
    (∀ pattern key : String, «matches» pattern key = true ↔
      ∃ blocks, blocks.flatten = key.toList.splitOn '.' ∧
        List.Forall₂ Takes (pattern.toList.splitOn '.') blocks) ∧
    ∀ (m : Message) (routes : List Route) (target : ChannelKey),
      target ∈ Strategy.topic.targets m routes ↔
        ∃ r ∈ routes, r.target = target ∧ ∃ pattern ∈ r.keys,
          Cuts (pattern.toList.splitOn '.')
            (((m.header? "routing-key").getD "__default__").toList.splitOn '.') := by
  have cuts (pattern key : String) : «matches» pattern key = true ↔
      Cuts (pattern.toList.splitOn '.') (key.toList.splitOn '.') := by
    rw [matches_iff, words_eq_splitOn, words_eq_splitOn]
  refine ⟨cuts, ?_⟩
  intro m routes target
  rw [Strategy.mem_targets]
  refine exists_congr fun r => and_congr_right fun _ => ?_
  have selected : Strategy.topic.selects m.routingKey r = true ↔
      ∃ pattern ∈ r.keys, «matches» pattern m.routingKey = true := List.any_eq_true
  rw [selected, and_comm]
  refine and_congr_right fun _ => exists_congr fun pattern => and_congr_right fun _ => ?_
  exact cuts pattern m.routingKey

/-- Two `#` next to a `*`, and a key with empty words. -/
example : Cuts (words "#.*.#.b".toList) (words "a..b".toList) ∧
    ¬ Cuts (words "#.*.#.b".toList) (words "b".toList) := by
  decide

end ChannelRouting.Topic
