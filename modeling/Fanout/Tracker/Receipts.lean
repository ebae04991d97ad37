import Fanout.Jid.Text
import Fanout.Message.Basic
import Fanout.Tracker.Table

namespace Fanout

/-- A message of a chat. -/
structure ChatMessage where
  chat : Jid
  id : String
deriving DecidableEq, Inhabited

namespace ChatMessage

def order : ChatMessage → ChatMessage → Ordering := compareLex (compareOn chat) (compareOn id)

instance : Ord ChatMessage := ⟨order⟩

instance : Std.TransOrd ChatMessage :=
  inferInstanceAs (Std.TransCmp (compareLex (compareOn chat) (compareOn id)))

instance : Std.LawfulEqOrd ChatMessage where
  eq_of_compare {a b} h := by
    have h : order a b = .eq := h
    simp only [order, compareLex_eq_eq] at h
    obtain ⟨ac, ai⟩ := a
    obtain ⟨bc, bi⟩ := b
    have hc : ac = bc := Std.LawfulEqOrd.eq_of_compare h.1
    have hi : ai = bi := Std.LawfulEqOrd.eq_of_compare h.2
    rw [hc, hi]

end ChatMessage

abbrev RecentMessages := TrackerTable ChatMessage Message

namespace RecentMessages

def remember (t : RecentMessages) (chat : Jid) (id : String) (message : Message) (now : Nat) :
    RecentMessages :=
  t.insert ⟨chat.withoutDevice, id⟩ message now

def message? (t : RecentMessages) (chat : Jid) (id : String) (now : Nat) : Option Message :=
  t.get? ⟨chat.withoutDevice, id⟩ now

end RecentMessages

/-- Counts by message and device, joined to one key. -/
abbrev ReceiptCounter := TrackerTable String Nat

namespace ReceiptCounter

def key (id : String) (requester : Jid) : String := id ++ "/" ++ requester.encode

/-- Counts one more receipt and gives the new count. -/
def bump (t : ReceiptCounter) (id : String) (requester : Jid) (now : Nat) : Nat × ReceiptCounter :=
  t.update (key id requester) now fun count => (count.getD 0 + 1, count.getD 0 + 1)

/-- Whether the sums of a bump fit: its end the word of a clock, and the new count its own. A bump
whose sums do not ends without an answer. -/
def bumpFits (t : ReceiptCounter) (id : String) (requester : Jid) (now : Nat) : Bool :=
  t.expiryFits now ∧ (t.bump id requester now).1 < UInt32.size

end ReceiptCounter

end Fanout
