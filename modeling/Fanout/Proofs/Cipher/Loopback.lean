import Fanout.Cipher.Loopback

namespace Fanout.Loopback

theorem length_keystream (key nonce : List UInt8) (blocks : Nat) :
    (keystream key nonce blocks).length = 32 * blocks := by
  simp [keystream, Hkdf.length_expand, List.map_const', Nat.mul_comm]

theorem zipWith_xor_cancel (data stream : List UInt8) (h : data.length ≤ stream.length) :
    List.zipWith (· ^^^ ·) (List.zipWith (· ^^^ ·) data stream) stream = data := by
  induction data generalizing stream with
  | nil => simp
  | cons b data ih =>
    cases stream with
    | nil => simp at h
    | cons k stream =>
      have rest := ih stream (by simpa using h)
      simp only [List.zipWith_cons_cons, UInt8.xor_assoc, UInt8.xor_self, UInt8.xor_zero, rest]

theorem length_mask (key nonce data : List UInt8) : (mask key nonce data).length = data.length := by
  simp only [mask, List.length_zipWith, length_keystream]
  omega

theorem mask_mask (key nonce data : List UInt8) : mask key nonce (mask key nonce data) = data := by
  have covered : data.length ≤ (keystream key nonce ((data.length + 31) / 32)).length := by
    rw [length_keystream]
    omega
  rw [mask, length_mask, mask, zipWith_xor_cancel _ _ covered]

theorem splitNonce_append {nonce : List UInt8} {len : Nat} (h : nonce.length = len)
    (body : List UInt8) : splitNonce len (nonce ++ body) = .ok (nonce, body) := by
  subst h
  simp [splitNonce]

/-- Whoever has a readable session, or none, reads this plaintext in an envelope. -/
def Holds (envelope : Envelope) (plaintext : List UInt8) : Prop :=
  ∀ session state, sessionState session = .ok state →
    ∃ record, decrypt session envelope = .ok (plaintext, record)

theorem holds_of_encrypt {session next : SessionRecord} {plaintext : List UInt8}
    {envelope : Envelope} (h : encrypt session plaintext = .ok (envelope, next)) :
    Holds envelope plaintext := by
  intro received state hr
  unfold encrypt at h
  cases hs : readState Session.ofJson? session.data with
  | error e => simp [hs, bind, Except.bind] at h
  | ok sent =>
    simp only [hs, bind, Except.bind, pure, Except.pure, Except.ok.injEq, Prod.mk.injEq] at h
    obtain ⟨rfl, rfl⟩ := h
    refine ⟨sessionRecord { state with pending := false }, ?_⟩
    simp [decrypt, hr, splitNonce_append (BigEndian.length_encode 8 _), mask_mask, bind,
      Except.bind, pure, Except.pure]

end Fanout.Loopback
