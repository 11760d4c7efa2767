import ChannelRouting.Proofs.Strategy.Wildcards
import Mathlib.Data.Set.Finite.Lemmas

/-!
# Strategies refine one another

Whatever its routes, a source sends a message to more targets by topic than directly, and to more
targets by fanout than by topic. The first holds because every pattern matches itself, wildcards
included (`Topic.matches_self`).

How much more is a matter of the wildcards. A pattern without any matches itself and nothing else
(`matches_iff_of_plain`): each of its words stands for itself, and the words of a text determine
it. A pattern with one matches infinitely many keys, one for each word that may stand in its place
(`matches_standIn`), of which no list of keys has all (`exists_matched_notMem`). So topic and
direct routing are the same for all messages exactly if no key of a route has a word that is a
wildcard (`strategies_refine`). What the messages name does not enter into it: their routing keys
may be empty, have empty words or words that look like wildcards, or be missing.
-/

namespace ChannelRouting.Topic

/-- A word that is read as a wildcard in a pattern. -/
def Wild (word : List Char) : Prop := word = ['*'] ∨ word = ['#']

/-- No word of a key would be a wildcard in a pattern. -/
def Plain (key : String) : Prop := ∀ word ∈ key.toList.splitOn '.', ¬ Wild word

/-! ## Patterns without wildcards -/

theorem takes_iff_of_not_wild {word : List Char} (literal : ¬ Wild word)
    (block : List (List Char)) : Takes word block ↔ block = [word] := by
  unfold Takes
  rw [if_neg fun any => literal (.inr any), if_neg fun one => literal (.inl one)]

/-- Words that are no wildcards cut nothing but themselves. -/
theorem cuts_iff_of_literal {pattern : List (List Char)} (literal : ∀ word ∈ pattern, ¬ Wild word)
    (key : List (List Char)) : Cuts pattern key ↔ key = pattern := by
  constructor
  · rintro ⟨blocks, rfl, cut⟩
    induction cut with
    | nil => rfl
    | cons takes _ ih =>
      obtain ⟨first, rest⟩ := List.forall_mem_cons.mp literal
      rw [List.flatten_cons, (takes_iff_of_not_wild first _).mp takes, ih rest]
      rfl
  · rintro rfl
    exact cuts_self key

/-- The words of a text determine it. -/
theorem words_inj {a b : List Char} : words a = words b ↔ a = b := by
  constructor
  · intro same
    rw [words_eq_splitOn, words_eq_splitOn] at same
    calc a = ['.'].intercalate (a.splitOn '.') := (List.intercalate_splitOn '.').symm
      _ = ['.'].intercalate (b.splitOn '.') := congrArg _ same
      _ = b := List.intercalate_splitOn '.'
  · exact congrArg words

/-- **A pattern without wildcards matches itself and nothing else.** -/
theorem matches_iff_of_plain {pattern : String} (plain : Plain pattern) (key : String) :
    «matches» pattern key = true ↔ pattern = key := by
  unfold Plain at plain
  rw [← words_eq_splitOn] at plain
  rw [matches_iff, cuts_iff_of_literal plain, words_inj, String.toList_inj]
  exact eq_comm

/-! ## Patterns with a wildcard -/

theorem dotless_of_mem_words {l word : List Char} (h : word ∈ words l) : '.' ∉ word := by
  induction l generalizing word with
  | nil =>
    rw [List.mem_singleton.mp h]
    exact List.not_mem_nil
  | cons c l ih =>
    unfold words at h
    split at h
    · rcases List.mem_cons.mp h with rfl | h
      · exact List.not_mem_nil
      · exact ih h
    · next other =>
      split at h
      · next w ws split =>
        have inner (v : List Char) (hv : v ∈ w :: ws) : '.' ∉ v := ih (split ▸ hv)
        rcases List.mem_cons.mp h with rfl | h
        · exact List.not_mem_cons_of_ne_of_not_mem (Ne.symm other) (inner w List.mem_cons_self)
        · exact inner word (List.mem_cons_of_mem _ h)
      · next none => exact absurd none (words_ne_nil l)

/-- The text with some words. -/
def join (ws : List (List Char)) : String := String.ofList (['.'].intercalate ws)

theorem words_join {ws : List (List Char)} (some_word : ws ≠ []) (dotless : ∀ w ∈ ws, '.' ∉ w) :
    words (join ws).toList = ws := by
  rw [join, String.toList_ofList, words_eq_splitOn, List.splitOn_intercalate '.' dotless some_word]

theorem takes_of_wild {wildcard : List Char} (wild : Wild wildcard) (word : List Char) :
    Takes wildcard [word] := by
  rcases wild with rfl | rfl
  · rfl
  · trivial

/-- Another word put in the place of a word of a text. -/
theorem words_standIn {l word : List Char} {before after : List (List Char)} {w : List Char}
    (split : words l = before ++ w :: after) (dotless : '.' ∉ word) :
    words (join (before ++ word :: after)).toList = before ++ word :: after := by
  refine words_join (List.append_ne_nil_of_right_ne_nil _ (List.cons_ne_nil _ _)) ?_
  intro v hv
  rcases List.mem_append.mp hv with hv | hv
  · exact dotless_of_mem_words (split ▸ List.mem_append_left _ hv)
  · rcases List.mem_cons.mp hv with rfl | hv
    · exact dotless
    · exact dotless_of_mem_words (split ▸ List.mem_append_right _ (List.mem_cons_of_mem _ hv))

/-- **Any word may stand in the place of a wildcard.** -/
theorem matches_standIn {pattern : String} {before after : List (List Char)} {wildcard : List Char}
    (split : words pattern.toList = before ++ wildcard :: after) (wild : Wild wildcard)
    {word : List Char} (dotless : '.' ∉ word) :
    «matches» pattern (join (before ++ word :: after)) = true := by
  rw [matches_iff, words_standIn split dotless, split]
  -- Each word has a block of its own, and only that of the wildcard is not the word itself.
  have itself (ws : List (List Char)) : List.Forall₂ Takes ws (ws.map fun w => [w]) := by
    rw [List.forall₂_map_right_iff, List.forall₂_same]
    intro w _
    by_cases hw : Wild w
    · exact takes_of_wild hw w
    · exact (takes_iff_of_not_wild hw _).mpr rfl
  refine ⟨before.map (fun w => [w]) ++ [word] :: after.map (fun w => [w]), ?_, ?_⟩
  · simp only [List.flatten_append, List.flatten_cons, List.singleton_append,
      ← List.flatMap_def, List.flatMap_singleton']
  · exact List.rel_append (itself before) (.cons (takes_of_wild wild word) (itself after))

/-- **A pattern with a wildcard matches a key that is not among given ones.** -/
theorem exists_matched_notMem {pattern : String} (wild : ¬ Plain pattern) (keys : List String) :
    ∃ key, «matches» pattern key = true ∧ key ∉ keys := by
  simp only [Plain, not_forall, not_not, ← words_eq_splitOn] at wild
  obtain ⟨wildcard, present, wild⟩ := wild
  obtain ⟨before, after, split⟩ := List.append_of_mem present
  -- A word of each length may stand in, so there are too many keys for a list.
  have dotless (n : Nat) : '.' ∉ List.replicate n 'x' := by
    intro h
    cases List.eq_of_mem_replicate h
  let key (n : Nat) : String := join (before ++ List.replicate n 'x' :: after)
  have different : Function.Injective key := by
    intro i j same
    have both : before ++ List.replicate i 'x' :: after = before ++ List.replicate j 'x' :: after := by
      rw [← words_standIn split (dotless i), ← words_standIn split (dotless j)]
      exact congrArg (fun k => words (String.toList k)) same
    have word := (List.cons.inj (List.append_cancel_left both)).1
    simpa using congrArg List.length word
  obtain ⟨_, ⟨n, rfl⟩, other⟩ :=
    (Set.infinite_range_of_injective different).exists_notMem_finset keys.toFinset
  exact ⟨key n, matches_standIn split wild (dotless n), fun h => other (List.mem_toFinset.mpr h)⟩

end ChannelRouting.Topic

namespace ChannelRouting.Strategy

/-- A strategy sends every message only to targets to which another one sends it too. -/
def Refines (s other : Strategy) (routes : List Route) : Prop :=
  ∀ m, ∀ t ∈ s.targets m routes, t ∈ other.targets m routes

/-- A strategy that selects fewer routes refines. -/
theorem refines_of_selects {s other : Strategy} {routes : List Route}
    (fewer : ∀ r ∈ routes, ∀ key, s.selects key r = true → other.selects key r = true) :
    s.Refines other routes := by
  intro m t targeted
  obtain ⟨r, present, selected, own⟩ := mem_targets.mp targeted
  exact mem_targets.mpr ⟨r, present, fewer r present _ selected, own⟩

theorem direct_selects_iff {key : String} {r : Route} :
    direct.selects key r = true ↔ key ∈ r.keys := decide_eq_true_iff

theorem topic_selects_iff {key : String} {r : Route} :
    topic.selects key r = true ↔ ∃ pattern ∈ r.keys, Topic.matches pattern key = true :=
  List.any_eq_true

/-- **The strategies refine one another**, and topic routing is direct routing exactly if no key has
a wildcard. -/
theorem strategies_refine (routes : List Route) :
    direct.Refines topic routes ∧ topic.Refines fanout routes ∧
      ((∀ r ∈ routes, ∀ key ∈ r.keys, Topic.Plain key) ↔
        ∀ m, topic.targets m routes = direct.targets m routes) := by
  have direct_topic : direct.Refines topic routes := by
    refine refines_of_selects fun r _ key selected => ?_
    exact topic_selects_iff.mpr ⟨key, direct_selects_iff.mp selected, Topic.matches_self key⟩
  refine ⟨direct_topic, refines_of_selects fun _ _ _ _ => rfl, ?_, ?_⟩
  · intro plain m
    have topic_direct : topic.Refines direct routes := by
      refine refines_of_selects fun r present key selected => ?_
      obtain ⟨pattern, held, matched⟩ := topic_selects_iff.mp selected
      rw [(Topic.matches_iff_of_plain (plain r present pattern held) key).mp matched] at held
      exact direct_selects_iff.mpr held
    exact SortedSet.ext_mem fun t => ⟨topic_direct m t, direct_topic m t⟩
  · intro same r present pattern held
    by_contra wild
    obtain ⟨key, matched, other⟩ :=
      Topic.exists_matched_notMem wild (routes.flatMap fun r => r.keys.toList)
    -- A message with this key goes to the target by topic, but no route has the key itself.
    let m : Message := (Message.new default []).withRoutingKey key
    have named : m.routingKey = key := Message.routingKey_withRoutingKey
    have by_topic : r.target ∈ topic.targets m routes :=
      mem_targets.mpr ⟨r, present, topic_selects_iff.mpr ⟨pattern, held, named ▸ matched⟩, rfl⟩
    rw [same] at by_topic
    obtain ⟨r', present', selected, -⟩ := mem_targets.mp by_topic
    rw [named] at selected
    exact other (List.mem_flatMap.mpr ⟨r', present', direct_selects_iff.mp selected⟩)

end ChannelRouting.Strategy
