import Fanout.Jid.Basic

namespace Fanout

instance : Ord Server := ⟨compareOn Server.rank⟩

instance : Std.TransOrd Server := inferInstanceAs (Std.TransCmp (compareOn Server.rank))

instance : Std.LawfulEqOrd Server where
  eq_of_compare h := Server.rank_inj (Std.LawfulEqOrd.eq_of_compare (α := Nat) h)

namespace Jid

def order : Jid → Jid → Ordering :=
  compareLex (compareOn user) (compareLex (compareOn server) (compareOn device))

instance : Ord Jid := ⟨order⟩

instance : Std.TransOrd Jid :=
  inferInstanceAs (Std.TransCmp (compareLex (compareOn user)
    (compareLex (compareOn server) (compareOn device))))

instance : Std.LawfulEqOrd Jid where
  eq_of_compare {a b} h := by
    have h : order a b = .eq := h
    simp only [order, compareLex_eq_eq] at h
    exact ext' (Std.LawfulEqOrd.eq_of_compare h.1) (Std.LawfulEqOrd.eq_of_compare h.2.1)
      (Std.LawfulEqOrd.eq_of_compare h.2.2)

end Jid

end Fanout
