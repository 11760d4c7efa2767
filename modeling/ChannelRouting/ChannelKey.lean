import ChannelRouting.Sorted.Map
import ChannelRouting.Sorted.Set

/-!
# Channel keys

A channel is known by its key, a text compared and ordered as it is: letter
case, blanks and composition of characters all count.
-/

namespace ChannelRouting

/-- The name of a channel. -/
structure ChannelKey where
  name : String
deriving DecidableEq, Inhabited

namespace ChannelKey

instance : ToString ChannelKey := ⟨name⟩

instance : LT ChannelKey := ⟨fun a b => a.name < b.name⟩

instance : DecidableLT ChannelKey := fun a b => inferInstanceAs (Decidable (a.name < b.name))

instance : KeyOrder ChannelKey where
  irrefl a := KeyOrder.irrefl a.name
  trans := fun {a b c} h₁ h₂ => KeyOrder.trans (a := a.name) (b := b.name) (c := c.name) h₁ h₂
  trichotomy a b := by
    rcases KeyOrder.trichotomy a.name b.name with h | h | h
    · exact .inl h
    · exact .inr (.inl (by cases a; cases b; cases h; rfl))
    · exact .inr (.inr h)

end ChannelKey

end ChannelRouting
