import Mathlib.Data.List.Basic
import Mathlib.Data.List.TakeWhile
import Turnstile.Net.SocketAddress
set_option autoImplicit false

/-! The port of a socket address that was put together from a host and a port. Whatever text the
host is, a colon in it cannot bring in a port of its own: a scanner leaves the end of a text, and
of the ends of this text only one starts with a colon and has digits alone behind it. -/

namespace Turnstile.Net

/-! ### What scanners leave -/

/-- What a scanner leaves of a text is its end. -/
def Scanner.Leaves {Result : Type} (scan : Scanner Result) : Prop :=
  ∀ text result rest, scan text = some (result, rest) → rest <:+ text

theorem eq_cons_of_scanChar {char : Char} {text rest : List Char} {result : Unit}
    (scanned : scanChar char text = some (result, rest)) : text = char :: rest := by
  cases text with
  | nil => cases scanned
  | cons found later =>
      rw [scanChar, Option.ite_none_right_eq_some] at scanned
      obtain ⟨rfl, same⟩ := scanned
      cases same
      rfl

theorem leaves_scanChar (char : Char) : (scanChar char).Leaves := by
  intro text _ rest scanned
  rw [eq_cons_of_scanChar scanned]
  exact List.suffix_cons char rest

theorem leaves_scan (form : NumberForm) : form.scan.Leaves := by
  intro text _ rest scanned
  simp only [NumberForm.scan] at scanned
  split at scanned
  · cases scanned
    exact List.dropWhile_suffix _
  · cases scanned

theorem leaves_scanOctets : scanOctets.Leaves := by
  intro text result rest scanned
  have octet := leaves_scan NumberForm.octet
  have point := leaves_scanChar '.'
  obtain ⟨⟨_, afterFirst⟩, first, scanned⟩ := Option.bind_eq_some_iff.mp scanned
  obtain ⟨⟨_, beforeSecond⟩, firstPoint, scanned⟩ := Option.bind_eq_some_iff.mp scanned
  obtain ⟨⟨_, afterSecond⟩, second, scanned⟩ := Option.bind_eq_some_iff.mp scanned
  obtain ⟨⟨_, beforeThird⟩, secondPoint, scanned⟩ := Option.bind_eq_some_iff.mp scanned
  obtain ⟨⟨_, afterThird⟩, third, scanned⟩ := Option.bind_eq_some_iff.mp scanned
  obtain ⟨⟨_, beforeFourth⟩, thirdPoint, scanned⟩ := Option.bind_eq_some_iff.mp scanned
  obtain ⟨⟨_, afterFourth⟩, fourth, scanned⟩ := Option.bind_eq_some_iff.mp scanned
  cases scanned
  exact (octet _ _ _ fourth).trans <| (point _ _ _ thirdPoint).trans <|
    (octet _ _ _ third).trans <| (point _ _ _ secondPoint).trans <|
    (octet _ _ _ second).trans <| (point _ _ _ firstPoint).trans (octet _ _ _ first)

theorem leaves_scanSeparated {Result : Type} {scan : Scanner Result} (isFirst : Bool)
    (leaves : scan.Leaves) : (scanSeparated isFirst scan).Leaves := by
  intro text result rest scanned
  cases isFirst with
  | true => exact leaves text result rest scanned
  | false =>
      obtain ⟨⟨_, behind⟩, separator, scanned⟩ := Option.bind_eq_some_iff.mp scanned
      exact (leaves behind result rest scanned).trans (leaves_scanChar ':' _ _ _ separator)

theorem rest_scanGroups (isFirst : Bool) (room : Nat) (text : List Char) :
    (scanGroups isFirst room text).rest <:+ text := by
  induction room generalizing isFirst text with
  | zero => exact List.suffix_refl text
  | succ room ih =>
      rw [scanGroups]
      split
      case h_1 octets rest scanned =>
          split at scanned
          · cases scanned
          · exact leaves_scanSeparated isFirst leaves_scanOctets _ _ _ scanned
      case h_2 =>
          split
          case h_1 group rest scanned =>
              exact (ih false rest).trans
                (leaves_scanSeparated isFirst (leaves_scan NumberForm.group) _ _ _ scanned)
          case h_2 => exact List.suffix_refl text

theorem leaves_scanHostGroups : scanHostGroups.Leaves := by
  intro text groups rest scanned
  have headRest := rest_scanGroups true groupCount text
  simp only [scanHostGroups] at scanned
  split at scanned
  · cases scanned
    exact headRest
  · split at scanned
    · cases scanned
    · split at scanned
      case h_1 behind colons =>
          cases scanned
          have zeros : behind <:+ text :=
            ((List.suffix_cons _ _).trans (List.suffix_cons _ _)).trans (colons ▸ headRest)
          exact (rest_scanGroups true _ behind).trans zeros
      case h_2 => cases scanned

theorem leaves_scanScope : scanScope.Leaves := by
  intro text scope rest scanned
  obtain ⟨⟨_, behind⟩, sign, scanned⟩ := Option.bind_eq_some_iff.mp scanned
  exact (leaves_scan NumberForm.scope _ _ _ scanned).trans (leaves_scanChar '%' _ _ _ sign)

theorem leaves_scanHost : scanHost.Leaves := by
  intro text host rest scanned
  unfold scanHost at scanned
  split at scanned
  case h_1 octets =>
      cases scanned
      exact leaves_scanOctets _ _ _ octets
  case h_2 =>
      obtain ⟨⟨_, inside⟩, opened, scanned⟩ := Option.bind_eq_some_iff.mp scanned
      obtain ⟨⟨groups, behind⟩, found, scanned⟩ := Option.bind_eq_some_iff.mp scanned
      obtain ⟨⟨_, behindBracket⟩, closed, scanned⟩ := Option.bind_eq_some_iff.mp scanned
      cases scanned
      have scope : ((scanScope behind).getD (0, behind)).2 <:+ behind := by
        cases scanned : scanScope behind with
        | none => exact List.suffix_refl behind
        | some result => exact leaves_scanScope _ _ _ scanned
      exact (leaves_scanChar ']' _ _ _ closed).trans <| scope.trans <|
        (leaves_scanHostGroups _ _ _ found).trans (leaves_scanChar '[' _ _ _ opened)

/-! ### Ports -/

theorem digit?_ten (char : Char) :
    digit? 10 char = if char.isDigit then some (char.toNat - '0'.toNat) else none := by
  have decimal : char.isDigit = decide (0x30 ≤ char.toNat ∧ char.toNat ≤ 0x39) := by
    rw [Bool.decide_and]
    rfl
  have low : ('0' ≤ char) = (0x30 ≤ char.toNat) := rfl
  have high : (char ≤ '9') = (char.toNat ≤ 0x39) := rfl
  have lowercase : ('a' ≤ char) = (0x61 ≤ char.toNat) := rfl
  have uppercase : ('A' ≤ char) = (0x41 ≤ char.toNat) := rfl
  simp only [digit?, decimal, low, high, lowercase, uppercase, ← Bool.decide_and,
    decide_eq_true_eq, Char.reduceToNat]
  grind

theorem isSome_digit?_ten (char : Char) : (digit? 10 char).isSome = char.isDigit := by
  rw [digit?_ten]
  cases char.isDigit <;> rfl

theorem valueOf_ten {digits : List Char} (allDigits : ∀ digit ∈ digits, digit.isDigit = true) :
    valueOf 10 digits = Nat.ofDigitChars 10 digits 0 := by
  refine List.foldl_ext _ _ 0 fun value digit member => ?_
  rw [digit?_ten, if_pos (allDigits digit member), Option.getD_some, Nat.mul_comm]

theorem scan_of_digits {digits : List Char} (allDigits : ∀ digit ∈ digits, digit.isDigit = true) :
    NumberForm.port.scan digits =
      if digits ≠ [] ∧ Nat.ofDigitChars 10 digits 0 ≤ 0xffff then
        some (Nat.ofDigitChars 10 digits 0, []) else none := by
  have taken : digits.takeWhile (fun char => (digit? 10 char).isSome) = digits := by
    simpa only [List.takeWhile_eq_self_iff, isSome_digit?_ten] using allDigits
  have dropped : digits.dropWhile (fun char => (digit? 10 char).isSome) = [] := by
    simpa only [List.dropWhile_eq_nil_iff, isSome_digit?_ten] using allDigits
  simp [NumberForm.scan, NumberForm.port, NumberForm.admits, taken, dropped, valueOf_ten allDigits]

theorem scanPort_eq_some_nil_iff {text : List Char} {port : UInt16} :
    scanPort text = some (port, []) ↔ ∃ digits, text = ':' :: digits ∧ digits ≠ [] ∧
      (∀ digit ∈ digits, digit.isDigit = true) ∧ Nat.ofDigitChars 10 digits 0 = port.toNat := by
  constructor
  · intro scanned
    obtain ⟨⟨_, digits⟩, colon, scanned⟩ := Option.bind_eq_some_iff.mp scanned
    obtain ⟨⟨value, rest⟩, found, scanned⟩ := Option.bind_eq_some_iff.mp scanned
    cases scanned
    have allDigits : ∀ digit ∈ digits, digit.isDigit = true := by
      simp only [NumberForm.scan, Option.ite_none_right_eq_some, Option.some.injEq, Prod.mk.injEq,
        List.dropWhile_eq_nil_iff] at found
      exact fun digit member => isSome_digit?_ten digit ▸ found.2.2 digit member
    rw [scan_of_digits allDigits, Option.ite_none_right_eq_some] at found
    obtain ⟨⟨filled, small⟩, same⟩ := found
    cases same
    refine ⟨digits, eq_cons_of_scanChar colon, filled, allDigits, ?_⟩
    rw [UInt16.toNat_ofNat', Nat.mod_eq_of_lt (Nat.lt_succ_of_le small)]
  · rintro ⟨digits, rfl, filled, allDigits, value⟩
    have scanned := scan_of_digits allDigits
    rw [if_pos ⟨filled, value ▸ Nat.le_of_lt_succ port.toNat_lt⟩, value] at scanned
    simp [scanPort, scanChar, scanned]

/-! ### A host and a port -/

/-- The ends of a text that start with a separator and hold no other are one end. -/
theorem eq_of_suffix {separator : Char} {text first second : List Char}
    (firstEnds : separator :: first <:+ text) (secondEnds : separator :: second <:+ text)
    (notInFirst : separator ∉ first) (notInSecond : separator ∉ second) : first = second := by
  rcases List.suffix_or_suffix_of_suffix firstEnds secondEnds with inside | inside
  · rcases List.suffix_cons_iff.mp inside with same | deeper
    · exact (List.cons.inj same).2
    · exact absurd (deeper.subset List.mem_cons_self) notInSecond
  · rcases List.suffix_cons_iff.mp inside with same | deeper
    · exact (List.cons.inj same).2.symm
    · exact absurd (deeper.subset List.mem_cons_self) notInFirst

namespace SocketAddress

theorem parse?_eq_some_iff {text : String} {address : SocketAddress} :
    parse? text = some address ↔ ∃ rest,
      scanHost text.toList = some (address.host, rest) ∧ scanPort rest = some (address.port, []) := by
  unfold parse?
  constructor
  · intro parsed
    obtain ⟨⟨host, rest⟩, found, parsed⟩ := Option.bind_eq_some_iff.mp parsed
    obtain ⟨⟨port, left⟩, scanned, parsed⟩ := Option.bind_eq_some_iff.mp parsed
    cases left with
    | nil => cases parsed; exact ⟨rest, found, scanned⟩
    | cons _ _ => cases parsed
  · rintro ⟨rest, found, scanned⟩
    simp [found, scanned]

theorem toList_joined (host : String) (port : Nat) :
    (host ++ ":" ++ toString port).toList = host.toList ++ ':' :: Nat.toDigits 10 port := by
  simp [Nat.toString_eq_repr]

theorem isDigit_of_mem_toDigits {port : Nat} {digit : Char}
    (member : digit ∈ Nat.toDigits 10 port) : digit.isDigit = true :=
  Nat.isDigit_of_mem_toDigits (by decide) (by decide) member

/-- The port that a host is joined to is the port of the address, whatever the host has in it. -/
theorem port_of_parse? {host : String} {port : Nat} {address : SocketAddress}
    (parsed : parse? (host ++ ":" ++ toString port) = some address) :
    address.port.toNat = port := by
  obtain ⟨rest, found, scanned⟩ := parse?_eq_some_iff.mp parsed
  obtain ⟨digits, rfl, -, allDigits, value⟩ := scanPort_eq_some_nil_iff.mp scanned
  have noColon : ∀ {digits : List Char}, (∀ digit ∈ digits, digit.isDigit = true) → ':' ∉ digits :=
    fun allDigits member => absurd (allDigits ':' member) (by decide)
  have same : digits = Nat.toDigits 10 port :=
    eq_of_suffix (leaves_scanHost _ _ _ found) (toList_joined host port ▸ List.suffix_append _ _)
      (noColon allDigits) (noColon fun _ => isDigit_of_mem_toDigits)
  rw [← value, same, Nat.ofDigitChars_ten_toDigits]

theorem parse?_allHosts {port : Nat} (small : port ≤ 0xffff) :
    parse? ("0.0.0.0" ++ ":" ++ toString port) = some ⟨.octets 0 0 0 0, UInt16.ofNat port⟩ := by
  rw [parse?_eq_some_iff]
  refine ⟨':' :: Nat.toDigits 10 port, toList_joined _ port ▸ rfl, scanPort_eq_some_nil_iff.mpr
    ⟨_, rfl, Nat.toDigits_ne_nil, fun _ => isDigit_of_mem_toDigits, ?_⟩⟩
  rw [Nat.ofDigitChars_ten_toDigits, UInt16.toNat_ofNat', Nat.mod_eq_of_lt (Nat.lt_succ_of_le small)]

end SocketAddress

end Turnstile.Net
