import Mathlib.Data.List.Infix
/-!
# A receiver with one slot

Any number of senders each transmit an opening, pieces and a closing, and a receiver with room for one
transfer takes the parts as they arrive, interleaved in any way that keeps each sender's order. What
the slot gathers belongs to the sender that opened it as long as pieces and closings come from that
sender while the slot is in use (`Takes.gathers`); at the closing it is then the whole transfer
(`gathers_closing`).
-/

namespace MultiUserChat

variable {ι β : Type}

/-- A part of a transfer. -/
inductive Part (β : Type)
  | opening
  | piece (bytes : List β)
  | closing
deriving DecidableEq

/-- The parts of a transfer, in order. -/
def parts (pieces : List (List β)) : List (Part β) :=
  .opening :: (pieces.map .piece ++ [.closing])

/-- The slot: the sender that opened it and what has been gathered since, unless it is free. -/
abbrev Slot (ι β : Type) : Type := Option (ι × List β)

/-- What a receiver may do with a part that arrives. -/
inductive Takes (slot : Slot ι β) (sender : ι) : Part β → Slot ι β → Prop
  /-- An opening is accepted. -/
  | opened : Takes slot sender .opening (some (sender, []))
  /-- An opening is refused and changes nothing. -/
  | refused : Takes slot sender .opening slot
  /-- The slot is given up, or was free. -/
  | freed {part : Part β} : Takes slot sender part none
  /-- A piece is added to what is in the slot. -/
  | added {owner : ι} {content bytes : List β} (used : slot = some (owner, content)) :
      Takes slot sender (.piece bytes) (some (owner, content ++ bytes))

/-- While the slot is in use, only its owner sends pieces and a closing. -/
def Undisturbed (slot : Slot ι β) (sender : ι) (part : Part β) : Prop :=
  part = .opening ∨ ∀ owner content, slot = some (owner, content) → sender = owner

variable [DecidableEq ι]

/-- The parts of one sender among those that have arrived. -/
def partsOf (arrived : List (ι × Part β)) (sender : ι) : List (Part β) :=
  (arrived.filter fun entry => entry.1 = sender).map Prod.snd

/-- What has arrived interleaves fronts of the senders' transfers. -/
def Interleaved (pieces : ι → List (List β)) (arrived : List (ι × Part β)) : Prop :=
  ∀ sender, partsOf arrived sender <+: parts (pieces sender)

/-- What is in the slot are the pieces of its owner that have arrived. -/
def Gathers (pieces : ι → List (List β)) (arrived : List (ι × Part β)) (slot : Slot ι β) : Prop :=
  ∀ owner content, slot = some (owner, content) → ∃ count,
    partsOf arrived owner = .opening :: ((pieces owner).take count).map .piece ∧
      content = ((pieces owner).take count).flatten

/-- A part that arrives is the next one of its sender. -/
theorem partsOf_self (arrived : List (ι × Part β)) (sender : ι) (part : Part β) :
    partsOf (arrived ++ [(sender, part)]) sender = partsOf arrived sender ++ [part] := by
  simp [partsOf]

/-- A part of one sender is no part of another one. -/
theorem partsOf_other (arrived : List (ι × Part β)) {sender other : ι} (part : Part β)
    (different : sender ≠ other) :
    partsOf (arrived ++ [(sender, part)]) other = partsOf arrived other := by
  simp [partsOf, different]

variable {pieces : ι → List (List β)} {arrived : List (ι × Part β)} {sender : ι} {part : Part β}

/-- Where the next part stands in its transfer. -/
theorem Interleaved.getElem (interleaved : Interleaved pieces (arrived ++ [(sender, part)])) :
    (parts (pieces sender))[(partsOf arrived sender).length]? = some part := by
  have front := interleaved sender
  rw [partsOf_self] at front
  obtain ⟨rest, whole⟩ := front
  rw [← whole, List.append_assoc, List.getElem?_append_right (Nat.le_refl _), Nat.sub_self]
  rfl

/-- A transfer has one opening, at its front. -/
theorem Interleaved.opening (interleaved : Interleaved pieces (arrived ++ [(sender, .opening)])) :
    partsOf arrived sender = [] := by
  have place := interleaved.getElem
  cases own : partsOf arrived sender with
  | nil => rfl
  | cons first later =>
    rw [own, List.length_cons, parts, List.getElem?_cons_succ] at place
    have member := List.mem_of_getElem? place
    simp at member

/-- After the opening and some pieces comes the next piece, or the closing when there is none. -/
theorem Interleaved.next {count : Nat}
    (interleaved : Interleaved pieces (arrived ++ [(sender, part)]))
    (own : partsOf arrived sender = .opening :: ((pieces sender).take count).map .piece) :
    (∃ inside : count < (pieces sender).length, part = .piece ((pieces sender).get ⟨count, inside⟩)) ∨
      (pieces sender).length ≤ count ∧ part = .closing := by
  have place := interleaved.getElem
  rw [own, List.length_cons, parts, List.getElem?_cons_succ, List.length_map, List.length_take]
    at place
  by_cases inside : count < (pieces sender).length
  · rw [Nat.min_eq_left (Nat.le_of_lt inside),
      List.getElem?_append_left (by rwa [List.length_map]), List.getElem?_map,
      List.getElem?_eq_getElem inside, Option.map_some, Option.some.injEq] at place
    exact .inl ⟨inside, place.symm⟩
  · have ended := Nat.not_lt.mp inside
    rw [Nat.min_eq_right ended, List.getElem?_append_right (by rw [List.length_map]),
      List.length_map, Nat.sub_self, List.getElem?_cons_zero, Option.some.injEq] at place
    exact .inr ⟨ended, place.symm⟩

/-- After the opening and some pieces, the next piece is the next one of the transfer. -/
theorem Interleaved.piece {bytes : List β} {count : Nat}
    (interleaved : Interleaved pieces (arrived ++ [(sender, .piece bytes)]))
    (own : partsOf arrived sender = .opening :: ((pieces sender).take count).map .piece) :
    (pieces sender).take (count + 1) = (pieces sender).take count ++ [bytes] := by
  obtain ⟨inside, same⟩ | ⟨_, same⟩ := interleaved.next own
  · rw [List.take_succ_eq_append_getElem inside, Part.piece.inj same]
    rfl
  · contradiction

/-- After the opening and some pieces, the closing comes when there are no more pieces. -/
theorem Interleaved.closing {count : Nat}
    (interleaved : Interleaved pieces (arrived ++ [(sender, .closing)]))
    (own : partsOf arrived sender = .opening :: ((pieces sender).take count).map .piece) :
    (pieces sender).take count = pieces sender := by
  obtain ⟨_, same⟩ | ⟨ended, _⟩ := interleaved.next own
  · contradiction
  · exact List.take_of_length_le ended

/-- The slot keeps gathering what its owner sends. -/
theorem Takes.gathers {slot slot' : Slot ι β} (gathers : Gathers pieces arrived slot)
    (interleaved : Interleaved pieces (arrived ++ [(sender, part)]))
    (undisturbed : Undisturbed slot sender part) (takes : Takes slot sender part slot') :
    Gathers pieces (arrived ++ [(sender, part)]) slot' := by
  intro owner content used
  cases takes with
  | opened =>
    rw [Option.some.injEq, Prod.mk.injEq] at used
    obtain ⟨rfl, rfl⟩ := used
    exact ⟨0, by rw [partsOf_self, interleaved.opening]; rfl, rfl⟩
  | refused =>
    obtain ⟨count, own, gathered⟩ := gathers owner content used
    have different : sender ≠ owner := by
      rintro rfl
      rw [interleaved.opening] at own
      contradiction
    exact ⟨count, by rw [partsOf_other _ _ different, own], gathered⟩
  | freed => contradiction
  | @added owner' before bytes holds =>
    rw [Option.some.injEq, Prod.mk.injEq] at used
    obtain ⟨rfl, rfl⟩ := used
    obtain ⟨count, own, gathered⟩ := gathers owner' before holds
    obtain rfl : sender = owner' := (undisturbed.resolve_left (by simp)) owner' before holds
    refine ⟨count + 1, ?_, ?_⟩
    · rw [partsOf_self, own, interleaved.piece own, List.map_append]
      rfl
    · rw [interleaved.piece own, List.flatten_append, gathered]
      simp

/-- When the owner closes the transfer, the slot has all of it. -/
theorem gathers_closing {slot : Slot ι β} {owner : ι} {content : List β}
    (gathers : Gathers pieces arrived slot)
    (interleaved : Interleaved pieces (arrived ++ [(sender, .closing)]))
    (undisturbed : Undisturbed slot sender .closing) (used : slot = some (owner, content)) :
    content = (pieces owner).flatten := by
  obtain ⟨count, own, gathered⟩ := gathers owner content used
  obtain rfl : sender = owner := (undisturbed.resolve_left (by simp)) owner content used
  rw [gathered, interleaved.closing own]

end MultiUserChat
