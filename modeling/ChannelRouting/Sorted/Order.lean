/-!
# Key orders

Sets and maps of this library list their elements in ascending order, so that
equal contents are equal values and every listing has one order. This module
states what the containers ask of an order: it is strict and total.

`KeyOrder` is a property of the `<` a type already has. Text is ordered by its
code points, which is also the order of its UTF-8 bytes.
-/

namespace ChannelRouting

/-- A strict total order: no key precedes itself, precedence is transitive,
and of two different keys one precedes the other. -/
class KeyOrder (α : Type) [LT α] : Prop where
  irrefl : ∀ a : α, ¬ a < a
  trans : ∀ {a b c : α}, a < b → b < c → a < c
  trichotomy : ∀ a b : α, a < b ∨ a = b ∨ b < a

namespace KeyOrder

variable {α : Type} [LT α] [KeyOrder α]

/-- Of two keys at most one precedes the other. -/
theorem asymm {a b : α} (h : a < b) : ¬ b < a :=
  fun h' => irrefl a (trans h h')

/-- A key that precedes another differs from it. -/
theorem ne_of_lt {a b : α} (h : a < b) : a ≠ b :=
  fun e => irrefl b (e ▸ h)

/-- Two keys neither of which precedes the other are one key. -/
theorem eq_of_not_lt {a b : α} (h₁ : ¬ a < b) (h₂ : ¬ b < a) : a = b :=
  match trichotomy a b with
  | .inl h => absurd h h₁
  | .inr (.inl h) => h
  | .inr (.inr h) => absurd h h₂

end KeyOrder

instance : KeyOrder String where
  irrefl := String.lt_irrefl
  trans := String.lt_trans
  trichotomy a b := by
    by_cases h₁ : a < b
    · exact .inl h₁
    · by_cases h₂ : b < a
      · exact .inr (.inr h₂)
      · exact .inr (.inl (String.le_antisymm (String.not_lt.mp h₂) (String.not_lt.mp h₁)))

instance : KeyOrder Nat where
  irrefl := Nat.lt_irrefl
  trans := Nat.lt_trans
  trichotomy := Nat.lt_trichotomy

end ChannelRouting
