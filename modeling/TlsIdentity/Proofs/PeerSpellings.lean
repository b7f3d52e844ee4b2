import Mathlib.Data.List.Induction
import TlsIdentity.PeerName
import TlsIdentity.Proofs.CanonicalNames

/-!
# Spellings of peers

A peer is known to host sets by `hostText`, and a listed text by `canonical`. For a text that names a peer
the two are the same if the peer is a DNS name or an IPv4 address, because an IPv4 address has one text
only. An IPv6 address has many, and `canonical` does not bring them together.
-/

namespace TlsIdentity

/-! ## Decimal numbers -/

namespace IPv4

theorem isDigit_iff {c : Char} : c.isDigit = true ↔ 48 ≤ c.toNat ∧ c.toNat ≤ 57 := by
  simp [Char.isDigit, UInt32.le_iff_toNat_le]

theorem digitChar_of_isDigit {c : Char} (h : c.isDigit = true) :
    Nat.digitChar (c.toNat - '0'.toNat) = c := by
  have hrange := isDigit_iff.mp h
  have hzero : '0'.toNat = 48 := by decide
  apply Char.toNat_inj.mp
  rw [Nat.toNat_digitChar_of_lt_ten (by omega)]
  omega

theorem decimalValue_snoc (digits : List Char) (digit : Char) :
    decimalValue (digits ++ [digit]) = decimalValue digits * 10 + (digit.toNat - '0'.toNat) := by
  rw [decimalValue, List.foldl_append]
  rfl

/-- **A number without leading zeros is written back digit by digit.** -/
theorem toDigits_decimalValue {digits : List Char} (hne : digits ≠ [])
    (hdigits : ∀ c ∈ digits, c.isDigit = true) (hlead : digits.head? ≠ some '0' ∨ digits = ['0']) :
    Nat.toDigits 10 (decimalValue digits) = digits := by
  induction digits using List.reverseRecOn with
  | nil => exact absurd rfl hne
  | append_singleton front digit ih =>
    have hdigit := hdigits digit (List.mem_append_right _ List.mem_cons_self)
    have hrange := isDigit_iff.mp hdigit
    have hzero : '0'.toNat = 48 := by decide
    rw [decimalValue_snoc]
    by_cases hfront : front = []
    · subst hfront
      rw [show decimalValue [] = 0 from rfl, Nat.zero_mul, Nat.zero_add,
        Nat.toDigits_of_lt_base (by omega), digitChar_of_isDigit hdigit]
      rfl
    · -- a number of two digits or more does not begin with zero, so its front is a positive number
      have hhead : front.head? ≠ some '0' := by
        rcases hlead with hlead | hlead
        · rwa [List.head?_append, List.head?_eq_some_head hfront, Option.some_or,
            ← List.head?_eq_some_head hfront] at hlead
        · have hlength := congrArg List.length hlead
          rw [List.length_append] at hlength
          exact absurd (List.length_eq_zero_iff.mp (Nat.succ.inj hlength)) hfront
      have hwritten := ih hfront (fun c hc => hdigits c (List.mem_append_left _ hc)) (.inl hhead)
      have hpositive : decimalValue front ≠ 0 := by
        intro hvalue
        rw [hvalue, Nat.toDigits_zero] at hwritten
        rw [← hwritten] at hhead
        exact hhead rfl
      rw [Nat.toDigits_of_base_le (by omega) (by omega), show
        (decimalValue front * 10 + (digit.toNat - '0'.toNat)) / 10 = decimalValue front by omega, show
        (decimalValue front * 10 + (digit.toNat - '0'.toNat)) % 10 = digit.toNat - '0'.toNat by omega,
        hwritten, digitChar_of_isDigit hdigit]

/-! ## The text of an IPv4 address -/

/-- An octet is read from the digits that it is written in, and from nothing else. -/
theorem toList_toString_of_octet? {digits : List Char} {octet : UInt8} (h : octet? digits = some octet) :
    (toString octet.toNat).toList = digits := by
  unfold octet? at h
  split at h
  · next hvalid =>
    obtain ⟨hne, hall, hlead, hsmall⟩ := hvalid
    cases h
    rw [UInt8.toNat_ofNat_of_lt' hsmall, Nat.toString_eq_ofList_toDigits, String.toList_ofList]
    exact toDigits_decimalValue hne (List.all_eq_true.mp hall) hlead
  · cases h

theorem toList_toText (address : IPv4) :
    address.toText.toList =
      ['.'].intercalate (address.octets.map fun octet => Nat.toDigits 10 octet.toNat) := by
  rw [toText, String.toList_intercalate, List.map_map]
  simp only [Function.comp_def, Nat.toString_eq_ofList_toDigits, String.toList_ofList]
  rfl

/-- **An IPv4 address has one text.** -/
theorem toText_of_ofChars? {text : String} {address : IPv4}
    (h : ofChars? text.toList = some address) : address.toText = text := by
  unfold ofChars? at h
  split at h
  · next a b c d hsplit =>
    simp only [Option.pure_def, Option.bind_eq_bind, Option.bind_eq_some_iff, Option.some.injEq] at h
    obtain ⟨first, hfirst, second, hsecond, third, hthird, fourth, hfourth, rfl⟩ := h
    -- each piece is what its octet is written as, and the pieces make up the text
    have hpieces : [first, second, third, fourth].map (fun octet => (toString octet.toNat).toList) =
        text.toList.splitOn '.' := by
      rw [hsplit, ← toList_toString_of_octet? hfirst, ← toList_toString_of_octet? hsecond,
        ← toList_toString_of_octet? hthird, ← toList_toString_of_octet? hfourth]
      rfl
    apply String.toList_inj.mp
    rw [toText, String.toList_intercalate, List.map_map]
    exact (congrArg _ hpieces).trans (List.intercalate_splitOn '.')
  · cases h

theorem toNat_lt_of_mem_toText {address : IPv4} {c : Char} (h : c ∈ address.toText.toList) :
    c.toNat < 65 := by
  -- a character is a dot or one of the digits of an octet
  rw [toList_toText] at h
  by_cases hdot : c = '.'
  · subst hdot
    decide
  · obtain ⟨piece, hpiece, hmem⟩ := HostName.exists_mem_of_mem_intercalate hdot h
    obtain ⟨octet, _, rfl⟩ := List.mem_map.mp hpiece
    have hrange := isDigit_iff.mp (Nat.isDigit_of_mem_toDigits (by omega) (by omega) hmem)
    omega

theorem getLast?_toText_ne (address : IPv4) : address.toText.toList.getLast? ≠ some '.' := by
  have hsplit : ∃ front, address.toText.toList = front ++ Nat.toDigits 10 address.fourth.toNat := by
    refine ⟨Nat.toDigits 10 address.first.toNat ++ '.' :: (Nat.toDigits 10 address.second.toNat ++ '.' ::
      (Nat.toDigits 10 address.third.toNat ++ ['.'])), ?_⟩
    rw [toList_toText]
    simp [octets, List.intercalate]
  -- the text ends as the fourth octet does, which has at least one digit
  obtain ⟨front, hfront⟩ := hsplit
  rw [hfront, List.getLast?_append, List.getLast?_eq_some_getLast Nat.toDigits_ne_nil, Option.some_or]
  intro hdot
  have hlast := List.getLast_mem (Nat.toDigits_ne_nil : Nat.toDigits 10 address.fourth.toNat ≠ [])
  rw [Option.some.inj hdot] at hlast
  have hdigit := Nat.isDigit_of_mem_toDigits (by omega) (by omega) hlast
  exact absurd hdigit (by decide)

/-- An address is its own canonical form: it holds no letters and does not end in a dot. -/
theorem canonical_toText (address : IPv4) : HostName.canonical address.toText = address.toText := by
  refine HostName.canonical_eq_self address.getLast?_toText_ne fun c hc => ?_
  exact (HostName.toLower_eq_iff (toNat_lt_of_mem_toText hc)).mpr rfl

end IPv4

/-! ## Peers -/

namespace PeerName

variable {text : String} {peer : PeerName}

/-- What a text has to be to name a peer of each kind. -/
theorem ofText?_eq_some (h : ofText? text = some peer) :
    match peer with
    | .dns name => name = text
    | .ipv4 address => IPv4.ofChars? text.toList = some address
    | .ipv6 address => IPv6.ofChars? text.toList = some address := by
  unfold ofText? at h
  split at h
  · cases h
    rfl
  · rw [Option.orElse_eq_orElse, Option.orElse_eq_or, Option.or_eq_some_iff] at h
    rcases h with h | ⟨_, h⟩
    · obtain ⟨address, haddress, rfl⟩ := Option.map_eq_some_iff.mp h
      exact haddress
    · obtain ⟨address, haddress, rfl⟩ := Option.map_eq_some_iff.mp h
      exact haddress

/-- **A text and the peer that it names are known under one name**, unless the peer is an IPv6 address. -/
theorem canonical_eq_hostText (h : ofText? text = some peer) (hkind : ∀ address, peer ≠ .ipv6 address) :
    HostName.canonical text = peer.hostText := by
  have hread := ofText?_eq_some h
  cases peer with
  | dns name =>
    have hname : name = text := hread
    rw [hname, hostText]
  | ipv4 address =>
    rw [← IPv4.toText_of_ofChars? hread, IPv4.canonical_toText, hostText]
  | ipv6 address => exact absurd rfl (hkind address)

end PeerName

end TlsIdentity
