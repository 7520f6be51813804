/-!
# Bounded channels

A queue between one sender and one receiver that holds at most `capacity` elements.  It reports that
it is closed to the receiver only once it is empty, and to the sender as soon as the receiver is gone.
-/

namespace RequestKeys

/-- A channel: its bound, the elements on their way, oldest first, and whether its two ends are still
held. -/
structure Channel (α : Type) where
  capacity : Nat
  queue : List α
  senderOpen : Bool
  receiverOpen : Bool

namespace Channel

variable {α : Type}

/-- An empty channel. -/
def new (capacity : Nat) : Channel α := ⟨capacity, [], true, true⟩

/-- What becomes of an element that is offered to a channel. -/
inductive Offer (α : Type) where
  | sent (c : Channel α)
  | full
  | closed

/-- Puts an element at the end of the queue, if there is room for it and someone to receive it. -/
def offer (c : Channel α) (a : α) : Offer α :=
  if !c.receiverOpen then .closed
  else if c.queue.length < c.capacity then .sent { c with queue := c.queue ++ [a] }
  else .full

/-- What a receiver finds. -/
inductive Taken (α : Type) where
  | item (a : α) (c : Channel α)
  | empty
  | closed

/-- Takes the element at the front of the queue. -/
def take (c : Channel α) : Taken α :=
  match c.queue with
  | a :: rest => .item a { c with queue := rest }
  | [] => if c.senderOpen then .empty else .closed

/-- Lets go of the sending end. -/
def closeSender (c : Channel α) : Channel α := { c with senderOpen := false }

/-- Lets go of the receiving end, and with it of what is on its way. -/
def dropReceiver (c : Channel α) : Channel α := { c with receiverOpen := false, queue := [] }

end Channel

end RequestKeys
