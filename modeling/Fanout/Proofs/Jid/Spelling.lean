import Fanout.Proofs.Jid.Text

namespace Fanout

namespace Server

/-- What the namespaces go by. -/
def names : List (String × Server) :=
  [("s.whatsapp.net", .individual), ("c.us", .individual), ("g.us", .group),
    ("broadcast", .broadcast), ("newsletter", .newsletter), ("lid", .lid)]

theorem mem_names_text (server : Server) : (server.text, server) ∈ names := by
  cases server <;> decide

theorem parse?_eq_some_iff {name : String} {server : Server} :
    parse? name = some server ↔ (name, server) ∈ names := by
  constructor
  · intro h
    unfold parse? at h
    split at h
    next legacy =>
      obtain rfl := Option.some.inj h
      rw [legacy]
      decide
    next =>
      have same : server.text = name := by simpa using List.find?_some h
      rw [← same]
      exact mem_names_text server
  · intro h
    simp only [names, List.mem_cons, Prod.mk.injEq, List.not_mem_nil, or_false] at h
    rcases h with ⟨rfl, rfl⟩ | ⟨rfl, rfl⟩ | ⟨rfl, rfl⟩ | ⟨rfl, rfl⟩ | ⟨rfl, rfl⟩ | ⟨rfl, rfl⟩ <;>
      decide

end Server

theorem isUserName_iff {user : String} :
    isUserName user = true ↔ '@' ∉ user.toList ∧ ':' ∉ user.toList := by
  refine ⟨Jid.not_mem_of_isUserName, fun ⟨no_at, no_colon⟩ => ?_⟩
  simp only [isUserName, Bool.not_eq_true', List.any_eq_false, decide_eq_true_eq]
  rintro c mem (rfl | rfl)
  · exact no_at mem
  · exact no_colon mem

namespace Jid

theorem splitAtFirst_eq_some_iff {c : Char} {cs before after : List Char} :
    splitAtFirst c cs = some (before, after) ↔ cs = before ++ c :: after ∧ c ∉ before := by
  refine ⟨fun h => ?_, fun ⟨same, absent⟩ => same ▸ splitAtFirst_append absent after⟩
  induction cs generalizing before with
  | nil => cases h
  | cons d cs ih =>
    unfold splitAtFirst at h
    split at h
    next found =>
      cases h
      simp [found]
    next other =>
      obtain ⟨⟨before', after'⟩, rest, same⟩ := Option.map_eq_some_iff.mp h
      cases same
      obtain ⟨same, absent⟩ := ih rest
      refine ⟨by rw [same, List.cons_append], ?_⟩
      simp only [List.mem_cons, not_or]
      exact ⟨fun found => other found.symm, absent⟩

theorem splitAtFirst_eq_none_iff {c : Char} {cs : List Char} :
    splitAtFirst c cs = none ↔ c ∉ cs := by
  refine ⟨fun h => ?_, splitAtFirst_eq_none⟩
  induction cs with
  | nil => simp
  | cons d cs ih =>
    unfold splitAtFirst at h
    split at h
    next => cases h
    next other =>
      have absent := ih (Option.map_eq_none_iff.mp h)
      simp only [List.mem_cons, not_or]
      exact ⟨fun found => other found.symm, absent⟩

/-- A device number as a text may give it. -/
structure DeviceNumeral where
  /-- Whether a plus sign stands before the digits. -/
  plus : Bool
  digits : List Char
  some_digit : digits ≠ []
  all_digits : ∀ c ∈ digits, c.isDigit = true
  fits : Numeral.value digits ≤ 65535

namespace DeviceNumeral

def chars (n : DeviceNumeral) : List Char := (if n.plus then ['+'] else []) ++ n.digits

def number (n : DeviceNumeral) : UInt16 := .ofNat (Numeral.value n.digits)

/-- Without a plus sign and without a leading zero. -/
def IsCanonical (n : DeviceNumeral) : Prop := n.plus = false ∧ n.digits.head? ≠ some '0'

theorem not_mem_chars {c : Char} (n : DeviceNumeral) (plus : c ≠ '+')
    (digit : c.isDigit = false) : c ∉ n.chars := by
  intro mem
  rcases List.mem_append.mp mem with sign | mem
  · split at sign
    next => exact plus (List.mem_singleton.mp sign)
    next => cases sign
  · rw [n.all_digits c mem] at digit
    cases digit

theorem head?_digits_ne_plus (n : DeviceNumeral) : n.digits.head? ≠ some '+' := by
  intro head
  have digit := n.all_digits '+' (List.mem_of_head? head)
  exact absurd digit (by decide)

theorem chars_injective : Function.Injective chars := by
  intro n m h
  have starts : ∀ k : DeviceNumeral, k.plus = decide (k.chars.head? = some '+') := by
    intro k
    have unsigned := k.head?_digits_ne_plus
    cases sign : k.plus <;> simp [chars, sign, unsigned]
  have sign : n.plus = m.plus := by rw [starts n, starts m, h]
  obtain ⟨plus, digits, _, _, _⟩ := n
  obtain ⟨plus', digits', _, _, _⟩ := m
  obtain rfl : plus = plus' := sign
  obtain rfl : digits = digits' := List.append_cancel_left h
  rfl

theorem readUnsigned?_chars (n : DeviceNumeral) :
    readUnsigned? n.chars = some (Numeral.value n.digits) := by
  have plain := readUnsigned?_of_digits n.some_digit n.all_digits
  cases sign : n.plus with
  | false =>
    rw [chars, sign]
    exact plain
  | true =>
    have all : n.digits.all Char.isDigit = true := List.all_eq_true.mpr n.all_digits
    simp [chars, sign, readUnsigned?, n.some_digit, all]

theorem readDevice?_chars (n : DeviceNumeral) : readDevice? n.chars = some n.number := by
  have small : Numeral.value n.digits < UInt16.size := Nat.lt_succ_of_le n.fits
  simp [readDevice?, readUnsigned?_chars, Option.filter, small, number]

/-- Nothing else is read as a number. -/
theorem exists_of_readUnsigned? {text : List Char} {value : Nat}
    (h : readUnsigned? text = some value) (fits : value ≤ 65535) :
    ∃ n : DeviceNumeral, n.chars = text := by
  have digits : ∀ ds : List Char,
      (if ds ≠ [] ∧ ds.all Char.isDigit = true then some (Numeral.value ds) else none) =
        some value → ds ≠ [] ∧ (∀ c ∈ ds, c.isDigit = true) ∧ Numeral.value ds ≤ 65535 := by
    intro ds read
    split at read
    next accepted =>
      cases read
      exact ⟨accepted.1, List.all_eq_true.mp accepted.2, fits⟩
    next => cases read
  by_cases sign : text.head? = some '+'
  · obtain ⟨ds, rfl⟩ := List.head?_eq_some_iff.mp sign
    obtain ⟨some_digit, all, small⟩ := digits ds h
    exact ⟨⟨true, ds, some_digit, all, small⟩, rfl⟩
  · have unsigned : ∀ ds, text = '+' :: ds → False := by
      rintro ds rfl
      exact sign rfl
    rw [readUnsigned?] at h
    · obtain ⟨some_digit, all, small⟩ := digits text h
      exact ⟨⟨false, text, some_digit, all, small⟩, rfl⟩
    · exact unsigned

theorem exists_of_readDevice? {text : List Char} {d : UInt16} (h : readDevice? text = some d) :
    ∃ n : DeviceNumeral, n.chars = text := by
  obtain ⟨value, read, _⟩ := Option.map_eq_some_iff.mp h
  obtain ⟨read, small⟩ := Option.filter_eq_some_iff.mp read
  exact exists_of_readUnsigned? read (Nat.le_of_lt_succ (of_decide_eq_true small))

theorem number_ne_zero {n : DeviceNumeral} (canonical : n.IsCanonical) : n.number ≠ 0 := by
  have positive := Numeral.value_ne_zero n.some_digit n.all_digits canonical.2
  have fits := n.fits
  intro zero
  have same := congrArg UInt16.toNat zero
  rw [number, UInt16.toNat_ofNat_of_lt' (Nat.lt_succ_of_le fits)] at same
  exact positive same

/-- The digits that a device number is written with. -/
def ofDevice (d : UInt16) : DeviceNumeral where
  plus := false
  digits := Numeral.digits d.toNat
  some_digit := Numeral.digits_ne_nil _
  all_digits _ := Numeral.isDigit_of_mem_digits
  fits := by
    rw [Numeral.value_digits]
    exact Nat.le_of_lt_succ d.toNat_lt_size

theorem isCanonical_ofDevice {d : UInt16} (h : d ≠ 0) : (ofDevice d).IsCanonical := by
  have positive : 0 < d.toNat := Nat.pos_of_ne_zero fun zero => h (UInt16.toNat_inj.mp zero)
  exact ⟨rfl, Numeral.head?_digits_of_pos positive⟩

theorem ofDevice_number {n : DeviceNumeral} (canonical : n.IsCanonical) :
    ofDevice n.number = n := by
  apply chars_injective
  have small : Numeral.value n.digits < UInt16.size := Nat.lt_succ_of_le n.fits
  have digits := Numeral.digits_value n.some_digit n.all_digits canonical.2
  have value : n.number.toNat = Numeral.value n.digits := UInt16.toNat_ofNat_of_lt' small
  simp only [chars, ofDevice, value, digits, canonical.1]

end DeviceNumeral

/-- A text that names an address, part by part. -/
structure Spelling where
  user : String
  device : Option DeviceNumeral
  /-- What the namespace goes by. -/
  name : String
  server : Server
  user_clean : '@' ∉ user.toList ∧ ':' ∉ user.toList
  name_known : (name, server) ∈ Server.names
  device_allowed : device.isSome → server = .individual ∨ server = .lid

namespace Spelling

def text (s : Spelling) : String :=
  match s.device with
  | none => s.user ++ "@" ++ s.name
  | some n => s.user ++ ":" ++ String.ofList n.chars ++ "@" ++ s.name

/-- The address that is spelled, its primary device being no device. -/
def jid (s : Spelling) : Jid where
  user := s.user
  server := s.server
  device := s.device.bind fun n => if n.number = 0 then none else some n.number
  user_clean := isUserName_iff.mpr s.user_clean
  device_allowed some_device := by
    cases given : s.device with
    | none => simp [given] at some_device
    | some n => simpa [Server.supportsDevices] using s.device_allowed (by simp [given])
  device_ne_zero zero := by
    cases given : s.device with
    | none => simp [given] at zero
    | some n =>
      by_cases primary : n.number = 0 <;> simp [given, primary] at zero

/-- Without anything needless. -/
def IsCanonical (s : Spelling) : Prop :=
  s.name = s.server.text ∧ ∀ n ∈ s.device, n.IsCanonical

/-- What stands before the name of the namespace. -/
def head (s : Spelling) : List Char :=
  s.user.toList ++ match s.device with
    | none => []
    | some n => ':' :: n.chars

theorem toList_text (s : Spelling) : s.text.toList = s.head ++ '@' :: s.name.toList := by
  unfold text head
  cases s.device <;> simp [String.toList_append]

theorem split_text (s : Spelling) :
    splitAtFirst '@' s.text.toList = some (s.head, s.name.toList) := by
  have absent : '@' ∉ s.head := by
    unfold head
    cases s.device with
    | none => simpa using s.user_clean.1
    | some n =>
      have unnumbered := n.not_mem_chars (c := '@') (by decide) (by decide)
      simp [s.user_clean.1, unnumbered]
  rw [toList_text, splitAtFirst_append absent]

theorem split_head (s : Spelling) :
    splitAtFirst ':' s.head = s.device.map fun n => (s.user.toList, n.chars) := by
  unfold head
  cases s.device with
  | none =>
    rw [List.append_nil]
    exact splitAtFirst_eq_none s.user_clean.2
  | some n => exact splitAtFirst_append s.user_clean.2 n.chars

theorem decode_text (s : Spelling) : decode s.text = .ok s.jid := by
  have known : Server.parse? s.name = some s.server := Server.parse?_eq_some_iff.mpr s.name_known
  have clean : isUserName s.user = true := isUserName_iff.mpr s.user_clean
  have split := s.split_head
  unfold decode
  simp only [s.split_text, String.ofList_toList, known]
  cases given : s.device with
  | none =>
    have whole : s.head = s.user.toList := by simp [head, given]
    rw [given, Option.map_none, whole] at split
    simp only [whole, split, String.ofList_toList, make, clean, dite_true]
    exact congrArg Except.ok (ext' rfl rfl (by simp [ofUser, jid, given]))
  | some n =>
    have allowed : s.server.supportsDevices = true := by
      simpa [Server.supportsDevices] using s.device_allowed (by simp [given])
    rw [given, Option.map_some] at split
    simp only [split, String.ofList_toList, n.readDevice?_chars, withDevice, allowed, clean,
      dite_true]
    exact congrArg Except.ok (ext' rfl rfl (by simp [jid, given]))

/-- A text spells an address in one way only. -/
theorem text_injective : Function.Injective text := by
  intro s t h
  have jid : s.jid = t.jid := by
    have read := s.decode_text
    rw [h, t.decode_text] at read
    exact (Except.ok.inj read).symm
  have parts : some (s.head, s.name.toList) = some (t.head, t.name.toList) := by
    rw [← split_text, ← split_text, h]
  obtain ⟨head, name⟩ := Prod.mk.inj (Option.some.inj parts)
  have device : s.device = t.device := by
    have numbers : s.device.map DeviceNumeral.chars = t.device.map DeviceNumeral.chars := by
      have split := s.split_head
      rw [head, t.split_head] at split
      have chars := congrArg (Option.map Prod.snd) split
      rw [Option.map_map, Option.map_map] at chars
      exact chars.symm
    exact Option.map_injective DeviceNumeral.chars_injective numbers
  obtain ⟨user, device', name', server, _, _, _⟩ := s
  obtain ⟨user', _, _, server', _, _, _⟩ := t
  obtain rfl : user = user' := congrArg Jid.user jid
  obtain rfl : server = server' := congrArg Jid.server jid
  obtain rfl := String.toList_injective name
  obtain rfl : device' = _ := device
  rfl

/-- What is read as an address is a spelling of one. -/
theorem exists_of_decode {raw : String} {j : Jid} (h : decode raw = .ok j) :
    ∃ s : Spelling, s.text = raw := by
  unfold decode at h
  split at h
  next => cases h
  next before name split =>
  obtain ⟨whole, no_at⟩ := splitAtFirst_eq_some_iff.mp split
  split at h
  next => cases h
  next server parsed =>
  have known := Server.parse?_eq_some_iff.mp parsed
  split at h
  next no_device =>
    have no_colon := splitAtFirst_eq_none_iff.mp no_device
    refine ⟨⟨.ofList before, none, .ofList name, server, ?_, known, by simp⟩, ?_⟩
    · simpa using ⟨no_at, no_colon⟩
    · apply String.toList_injective
      simp [text, whole]
  next user number device =>
    obtain ⟨rfl, no_colon⟩ := splitAtFirst_eq_some_iff.mp device
    have absent : '@' ∉ user := fun mem => no_at (List.mem_append_left _ mem)
    split at h
    next => cases h
    next d read =>
    obtain ⟨n, rfl⟩ := DeviceNumeral.exists_of_readDevice? read
    have allowed : server.supportsDevices = true := by
      by_contra refused
      rw [withDevice, dif_neg refused] at h
      cases h
    refine ⟨⟨.ofList user, some n, .ofList name, server, ?_, known, fun _ => ?_⟩, ?_⟩
    · simpa using ⟨absent, no_colon⟩
    · simpa [Server.supportsDevices] using allowed
    · apply String.toList_injective
      simp [text, whole]

/-- The text form of an address, part by part. -/
def ofJid (j : Jid) : Spelling where
  user := j.user
  device := j.device.map .ofDevice
  name := j.server.text
  server := j.server
  user_clean := isUserName_iff.mp j.user_clean
  name_known := Server.mem_names_text j.server
  device_allowed some_device := by
    have allowed := j.device_allowed (by simpa using some_device)
    simpa [Server.supportsDevices] using allowed

theorem text_ofJid (j : Jid) : (ofJid j).text = j.encode := by
  apply String.toList_injective
  rw [toList_text, encode, String.toList_ofList, chars, head]
  cases given : j.device <;> simp [ofJid, given, deviceText, DeviceNumeral.chars,
    DeviceNumeral.ofDevice]

theorem isCanonical_ofJid (j : Jid) : (ofJid j).IsCanonical := by
  refine ⟨rfl, fun n mem => ?_⟩
  obtain ⟨d, given, rfl⟩ := Option.map_eq_some_iff.mp mem
  apply DeviceNumeral.isCanonical_ofDevice
  intro zero
  exact j.device_ne_zero (zero ▸ given)

theorem ofJid_jid {s : Spelling} (canonical : s.IsCanonical) : ofJid s.jid = s := by
  obtain ⟨user, device, name, server, _, _, _⟩ := s
  obtain ⟨called, unsigned⟩ := canonical
  obtain rfl : name = server.text := called
  cases device with
  | none => rfl
  | some n =>
    have canonical : n.IsCanonical := unsigned n rfl
    have secondary := DeviceNumeral.number_ne_zero canonical
    simp [ofJid, jid, secondary, DeviceNumeral.ofDevice_number canonical]

/-- An address has one canonical spelling, its text form. -/
theorem text_eq_encode_iff (s : Spelling) : s.text = s.jid.encode ↔ s.IsCanonical := by
  rw [← text_ofJid]
  constructor
  · intro h
    rw [text_injective h]
    exact isCanonical_ofJid s.jid
  · intro canonical
    rw [ofJid_jid canonical]

end Spelling

/-- Every address is one that can be built from its parts. -/
theorem make_or_withDevice (j : Jid) :
    make j.user j.server = .ok j ∨ ∃ d, withDevice j.user j.server d = .ok j := by
  obtain ⟨user, server, device, clean, allowed, nonzero⟩ := j
  cases device with
  | none =>
    left
    rw [make, dif_pos clean]
    rfl
  | some d =>
    right
    have secondary : d ≠ 0 := fun zero => nonzero (congrArg some zero)
    have devices : server.supportsDevices = true := allowed rfl
    exact ⟨d, by simp [withDevice, devices, clean, secondary]⟩

/-- The text form of an address is read as that address. The texts that are read are the spellings,
each as what it spells, and the text form of what is read is its canonical spelling. -/
theorem reads_exactly_spellings :
    (∀ j : Jid, (make j.user j.server = .ok j ∨ ∃ d, withDevice j.user j.server d = .ok j) ∧
      decode j.encode = .ok j) ∧
    (∀ raw, (∃ j, decode raw = .ok j) ↔ ∃ s : Spelling, s.text = raw) ∧
    ∀ s : Spelling, decode s.text = .ok s.jid ∧
      (∃ t : Spelling, t.IsCanonical ∧ t.text = s.jid.encode ∧ decode t.text = .ok s.jid) ∧
      (s.text = s.jid.encode ↔ s.IsCanonical) := by
  refine ⟨fun j => ⟨make_or_withDevice j, decode_encode j⟩, fun raw => ⟨?_, ?_⟩, fun s => ?_⟩
  · rintro ⟨j, read⟩
    exact Spelling.exists_of_decode read
  · rintro ⟨s, rfl⟩
    exact ⟨s.jid, s.decode_text⟩
  · refine ⟨s.decode_text, ⟨.ofJid s.jid, Spelling.isCanonical_ofJid s.jid, ?_, ?_⟩,
      s.text_eq_encode_iff⟩
    · exact Spelling.text_ofJid s.jid
    · rw [Spelling.text_ofJid, decode_encode]

end Jid

end Fanout
