/-
  WorkloadIdentity.Token.Feed ──── **A FEED THAT KEEPS THE LAST SIXTEEN ITEMS.**

  Every subscriber has a cursor: the number of the next item it has not seen.  **RULE**: a
  subscriber whose next item is gone is told once how many it lost, and goes on at the oldest item
  that is still kept.

  ✓ `Feed.publish`, `Feed.subscribe`, `Feed.receive`
-/

namespace WorkloadIdentity

/-! ## §1. Feeds. -/

/-- A feed: how many items were published, the last of them (the newest first), and for each
subscriber the number of its next item. -/
structure Feed (α : Type) where
  /-- How many items were published. -/
  published : Nat
  /-- The items that are kept, the newest first. -/
  kept : List α
  /-- The number of the next item of each subscriber, in order of subscription. -/
  cursors : List Nat

/-- How many items are kept. -/
def Feed.capacity : Nat := 16

/-- A feed on which nothing was published and that nobody reads. -/
def Feed.empty {α : Type} : Feed α := ⟨0, [], []⟩

/-- The number of the oldest item that is kept. -/
def Feed.oldest {α : Type} (f : Feed α) : Nat := f.published - f.kept.length

/-! ## §2. What can be done with a feed. -/

/-- Publish an item; nobody needs to read it. -/
def Feed.publish {α : Type} (f : Feed α) (x : α) : Feed α :=
  { f with published := f.published + 1, kept := (x :: f.kept).take Feed.capacity }

/-- A new subscriber, who sees what is published from now on, and its number. -/
def Feed.subscribe {α : Type} (f : Feed α) : Nat × Feed α :=
  (f.cursors.length, { f with cursors := f.cursors ++ [f.published] })

/-- What a subscriber gets. -/
inductive Delivery (α : Type) where
  /-- Its next item. -/
  | item (x : α)
  /-- There is nothing new. -/
  | nothing
  /-- So many items are gone. -/
  | lagged (n : Nat)
  deriving DecidableEq

/-- **Ask for the next item of a subscriber.** -/
def Feed.receive {α : Type} (f : Feed α) (subscriber : Nat) : Delivery α × Feed α :=
  match f.cursors[subscriber]? with
  | none => (.nothing, f)
  | some next =>
    if f.published ≤ next then (.nothing, f)
    else if next < f.oldest then
      (.lagged (f.oldest - next), { f with cursors := f.cursors.set subscriber f.oldest })
    else
      match f.kept[f.published - 1 - next]? with
      | some x => (.item x, { f with cursors := f.cursors.set subscriber (next + 1) })
      | none => (.nothing, f)

end WorkloadIdentity
