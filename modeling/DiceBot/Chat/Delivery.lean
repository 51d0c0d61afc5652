import DiceBot.Roll.Reply

/-!
# Delivery

A rendered reply is posted in the channel of the request, or it is sent to the user alone and the
channel only learns that there was a roll. The channel learns nothing unless the private message was
delivered.
-/

namespace DiceBot

/-- Who gets to see a reply. -/
inductive DeliveryMode where
  /-- Everyone in the channel. -/
  | everyone
  /-- The user alone; the channel gets a stub. -/
  | privately
  deriving DecidableEq, Repr

/-- A rendered reply. -/
structure Rendered where
  /-- The text. -/
  text : Text
  /-- Who gets to see it. -/
  mode : DeliveryMode
  deriving DecidableEq, Repr

/-- A private message. -/
structure PrivateMessage where
  /-- The address of the user. -/
  recipient : Text
  /-- The text. -/
  text : Text
  deriving DecidableEq, Repr

/-- The way private messages go: the reason for which a message is not delivered, if it is not. -/
abbrev PrivateChannel := PrivateMessage → Option Text

/-- What comes of a delivery, with the private messages that were delivered. -/
structure Delivered (α : Type) where
  /-- What is posted in the channel of the request. -/
  result : Except DeliveryError α
  /-- The private messages that were delivered, in order. -/
  sent : List PrivateMessage

/-- Delivers a rendered reply to the user with this address and name. -/
def Rendered.deliver (channel : PrivateChannel) (userId name : Text) (r : Rendered) :
    Delivered Text :=
  match r.mode with
  | .everyone => ⟨.ok r.text, []⟩
  | .privately =>
    match channel ⟨userId, r.text⟩ with
    | some reason => ⟨.error ⟨reason⟩, []⟩
    | none => ⟨.ok (Reply.hiddenStub name), [⟨userId, r.text⟩]⟩

end DiceBot
