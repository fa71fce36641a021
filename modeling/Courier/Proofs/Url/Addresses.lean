import Courier.Proofs.Text.Digits
import Courier.Proofs.Url.Host
import Mathlib.Data.List.TakeWhile

/-!
# Addresses read back

The texts of IP addresses stand for the addresses that they were written for.
-/

namespace Courier.Url

namespace Ipv4

/-- The four octets of an address. -/
def octets (address : UInt32) : List Nat :=
  let value := address.toNat
  [value / 16777216, value / 65536 % 256, value / 256 % 256, value % 256]

variable (address : UInt32)

theorem octet_lt : ∀ octet ∈ octets address, octet < 256 := by
  have bounded := address.toNat_lt
  simp only [octets, List.forall_mem_cons]
  refine ⟨by omega, by omega, by omega, by omega, nofun⟩

theorem toList_text : (Ipv4.text address).toList =
    ['.'].intercalate ((octets address).map (Nat.toDigits 10)) := by
  rw [Ipv4.text, String.toList_intercalate, List.map_map]
  simp [octets]

/-- The labels of a written address are the digits of its octets. -/
theorem labels_text :
    labels (Ipv4.text address).toList = (octets address).map (Nat.toDigits 10) := by
  rw [labels, toList_text]
  refine List.splitOn_intercalate '.' ?_ (by simp [octets])
  simp only [List.forall_mem_map]
  intro octet _ dot_mem
  have digit := isDigit_of_mem_decimal dot_mem
  exact absurd digit (by decide)

theorem significantLabels_text :
    significantLabels (Ipv4.text address).toList = (octets address).map (Nat.toDigits 10) := by
  rw [significantLabels, labels_text]
  simp [octets, Nat.toDigits_ne_nil]

theorem number?_octet {octet : Nat} (small : octet < 256) :
    number? (Nat.toDigits 10 octet) = some octet := by
  have each : ∀ octet ∈ List.range 256, number? (Nat.toDigits 10 octet) = some octet := by
    decide +kernel
  exact each octet (List.mem_range.mpr small)

/-- A written address ends in a number. -/
theorem endsInNumber_text : endsInNumber (Ipv4.text address).toList = true := by
  have small : address.toNat % 256 < 256 := Nat.mod_lt _ (by decide)
  have last : ((octets address).map (Nat.toDigits 10)).getLast? =
      some (Nat.toDigits 10 (address.toNat % 256)) := rfl
  rw [endsInNumber, significantLabels_text, last]
  obtain ⟨digit, digits, digits_eq⟩ :=
    List.exists_cons_of_ne_nil (Nat.toDigits_ne_nil (n := address.toNat % 256) (b := 10))
  rw [digits_eq]
  dsimp only
  rw [← digits_eq, number?_octet small]
  simp

theorem ofNumbers?_octets : ofNumbers? (octets address) = some address := by
  have bounded := octet_lt address
  simp only [octets, List.forall_mem_cons] at bounded
  obtain ⟨first, second, third, fourth, -⟩ := bounded
  have whole : ((address.toNat / 16777216 * 256 + address.toNat / 65536 % 256) * 256 +
      address.toNat / 256 % 256) * 256 + address.toNat % 256 = address.toNat := by omega
  have written : ofNumbers? (octets address) = some (UInt32.ofNat
      (((address.toNat / 16777216 * 256 + address.toNat / 65536 % 256) * 256 +
        address.toNat / 256 % 256) * 256 + address.toNat % 256)) := by
    simp [ofNumbers?, octets, -UInt32.ofNat_add, -UInt32.ofNat_mul]
    omega
  rw [written, whole, UInt32.ofNat_toNat]

theorem parse?_text : parse? (Ipv4.text address).toList = some address := by
  have numbers : ((octets address).map (Nat.toDigits 10)).mapM number? = some (octets address) :=
    mapM_map_eq_self fun octet octet_mem => number?_octet (octet_lt address octet octet_mem)
  rw [parse?, significantLabels_text, numbers]
  exact ofNumbers?_octets address

end Ipv4

namespace Ipv6

theorem octet?_octet {octet : Nat} (small : octet < 256) :
    octet? (Nat.toDigits 10 octet) = some octet := by
  have each : ∀ octet ∈ List.range 256, octet? (Nat.toDigits 10 octet) = some octet := by
    decide +kernel
  exact each octet (List.mem_range.mpr small)

theorem two_octets (value : Nat) : value / 256 % 256 * 256 + value % 256 = value % 65536 := by
  omega

/-- The two pieces that a written IPv4 address stands for. -/
theorem ipv4Tail?_text (address : UInt32) :
    ipv4Tail? (Ipv4.text address).toList =
      some [UInt16.ofNat (address.toNat / 65536), UInt16.ofNat (address.toNat % 65536)] := by
  have high : address.toNat / 16777216 * 256 + address.toNat / 65536 % 256 =
      address.toNat / 65536 := by omega
  have low := two_octets address.toNat
  have numbers : ((Ipv4.octets address).map (Nat.toDigits 10)).mapM octet? =
      some (Ipv4.octets address) :=
    mapM_map_eq_self fun octet octet_mem => octet?_octet (Ipv4.octet_lt address octet octet_mem)
  rw [ipv4Tail?, Ipv4.labels_text, numbers]
  simp only [Ipv4.octets, Option.bind_eq_bind, Option.bind_some]
  rw [high, low]

/-! ### Pieces -/

/-- A run of digits ends where something else follows it. -/
theorem hexRun_append {limit : Nat} {digits rest : List Char}
    (hexadecimal : ∀ char ∈ digits, Ascii.isHexDigit char = true) (fits : digits.length ≤ limit)
    (stops : ∀ char ∈ rest.head?, Ascii.isHexDigit char = false) :
    hexRun limit (digits ++ rest) = (digits, rest) := by
  induction digits generalizing limit with
  | nil =>
      cases limit with
      | zero => rfl
      | succ limit =>
          cases rest with
          | nil => rfl
          | cons char more =>
              have other := stops char rfl
              simp [hexRun, other]
  | cons digit more induction =>
      obtain ⟨is_digit, are_digits⟩ := List.forall_mem_cons.mp hexadecimal
      obtain ⟨limit, rfl⟩ : ∃ before, limit = before + 1 := Nat.exists_eq_add_one.mpr (by
        simp only [List.length_cons] at fits
        omega)
      rw [List.cons_append, hexRun, is_digit, induction are_digits (by simpa using fits)]
      rfl

/-- The digits of a piece. -/
def digits (piece : UInt16) : List Char := Nat.toDigits 16 piece.toNat

section Pieces

variable {reading : Reading}

/-- What follows a run of digits, and what is read from there. -/
inductive Continues (reading : Reading) (chars digits : List Char) :
    List Char → Option Reading → Prop
  | nothing : Continues reading chars digits []
      (some (reading.push [UInt16.ofNat (Ascii.ofDigits 16 digits)]))
  | piece (next : Char) (others : List Char) : Continues reading chars digits
      (':' :: next :: others)
      (readPieces (reading.push [UInt16.ofNat (Ascii.ofDigits 16 digits)]) (next :: others))
  | octet (room : reading.size ≤ 6) (others : List Char) : Continues reading chars digits
      ('.' :: others) ((ipv4Tail? chars).map reading.push)

/-- A run of digits is read as a piece, or as the first octet of an IPv4 address. -/
theorem readPieces_run {digits rest : List Char} {result : Option Reading}
    (room : reading.size < 8) (some_digit : digits ≠ [])
    (hexadecimal : ∀ char ∈ digits, Ascii.isHexDigit char = true) (fits : digits.length ≤ 4)
    (continues : Continues reading (digits ++ rest) digits rest result) :
    readPieces reading (digits ++ rest) = result := by
  have stops : ∀ char ∈ rest.head?, Ascii.isHexDigit char = false := by
    cases continues <;> simp [Ascii.isHexDigit]
  have run := hexRun_append hexadecimal fits stops
  obtain ⟨digit, more, rfl⟩ := List.exists_cons_of_ne_nil some_digit
  have not_colon : digit ≠ ':' := by
    rintro rfl
    exact absurd (hexadecimal ':' List.mem_cons_self) (by decide)
  rw [List.cons_append] at run continues ⊢
  rw [readPieces.eq_def]
  split
  · contradiction
  · rename_i first
    cases first
    exact absurd rfl not_colon
  · rename_i first
    cases first
    rw [if_neg (by omega)]
    dsimp only
    cases continues with
    | nothing => split <;> simp_all
    | piece next others => split <;> simp_all
    | octet room others => split <;> simp_all

theorem hexadecimal_digits (piece : UInt16) :
    ∀ char ∈ digits piece, Ascii.isHexDigit char = true :=
  fun _ char_mem => isHexDigit_of_mem_toDigits char_mem

theorem digits_ne_nil (piece : UInt16) : digits piece ≠ [] := Nat.toDigits_ne_nil

theorem length_digits (piece : UInt16) : (digits piece).length ≤ 4 :=
  (Nat.length_toDigits_le_iff (by decide) (by decide)).mpr piece.toNat_lt

theorem ofDigits_digits (piece : UInt16) :
    UInt16.ofNat (Ascii.ofDigits 16 (digits piece)) = piece := by
  rw [digits, Ascii.ofDigits_toDigits (by decide) (by decide), UInt16.ofNat_toNat]

theorem digits_cons (piece : UInt16) :
    ∃ digit more, digits piece = digit :: more ∧ digit ≠ ':' := by
  obtain ⟨digit, more, digits_eq⟩ := List.exists_cons_of_ne_nil (digits_ne_nil piece)
  refine ⟨digit, more, digits_eq, ?_⟩
  rintro rfl
  exact absurd (hexadecimal_digits piece ':' (by simp [digits_eq])) (by decide)

/-- The last piece is read to the end. -/
theorem readPieces_last (room : reading.size < 8) (piece : UInt16) :
    readPieces reading (digits piece) = some (reading.push [piece]) := by
  have read := readPieces_run room (digits_ne_nil piece) (hexadecimal_digits piece)
    (length_digits piece) .nothing
  rwa [ofDigits_digits, List.append_nil] at read

/-- A piece is read up to the colon behind it. -/
theorem readPieces_piece (room : reading.size < 8) (piece : UInt16) (next : Char)
    (others : List Char) :
    readPieces reading (digits piece ++ ':' :: next :: others) =
      readPieces (reading.push [piece]) (next :: others) := by
  have read := readPieces_run room (digits_ne_nil piece) (hexadecimal_digits piece)
    (length_digits piece) (.piece next others)
  rwa [ofDigits_digits] at read

/-- An IPv4 address at the end is two pieces. -/
theorem readPieces_tail (room : reading.size ≤ 6) (address : UInt32) :
    readPieces reading (Ipv4.text address).toList = some (reading.push
      [UInt16.ofNat (address.toNat / 65536), UInt16.ofNat (address.toNat % 65536)]) := by
  have small := Ipv4.octet_lt address _ List.mem_cons_self
  have hexadecimal : ∀ char ∈ Nat.toDigits 10 (address.toNat / 16777216),
      Ascii.isHexDigit char = true :=
    fun char char_mem => by simp [Ascii.isHexDigit, isDigit_of_mem_decimal char_mem]
  have fits : (Nat.toDigits 10 (address.toNat / 16777216)).length ≤ 4 :=
    (Nat.length_toDigits_le_iff (by decide) (by decide)).mpr (by omega)
  have tail := ipv4Tail?_text address
  obtain ⟨after, after_eq⟩ : ∃ after, (Ipv4.text address).toList =
      Nat.toDigits 10 (address.toNat / 16777216) ++ '.' :: after := by
    rw [Ipv4.toList_text, Ipv4.octets, List.map_cons, List.map_cons, List.intercalate_cons_cons]
    exact ⟨_, by rw [List.append_assoc]; rfl⟩
  rw [after_eq] at tail ⊢
  rw [readPieces_run (by omega) Nat.toDigits_ne_nil hexadecimal fits (.octet room after), tail,
    Option.map_some]

/-! ### Pieces between colons -/

theorem size_push (reading : Reading) (pieces : List UInt16) :
    (reading.push pieces).size = reading.size + pieces.length := by
  obtain ⟨left, right⟩ := reading
  cases right with
  | none => simp [Reading.push, Reading.size]
  | some right =>
      simp only [Reading.push, Reading.size, Option.map_some, Option.getD_some, List.length_append]
      omega

theorem push_push (reading : Reading) (pieces others : List UInt16) :
    (reading.push pieces).push others = reading.push (pieces ++ others) := by
  obtain ⟨left, right⟩ := reading
  cases right <;> simp [Reading.push]

theorem toList_piecesText_cons (piece next : UInt16) (rest : List UInt16) :
    (piecesText (piece :: next :: rest)).toList =
      digits piece ++ ':' :: (piecesText (next :: rest)).toList := by
  simp [piecesText, String.intercalate_cons_cons, String.toList_append, pieceText, digits]

theorem toList_piecesText_singleton (piece : UInt16) :
    (piecesText [piece]).toList = digits piece := by
  simp [piecesText, pieceText, digits]

theorem toList_piecesText_ne_nil (piece : UInt16) (rest : List UInt16) :
    ∃ first more, (piecesText (piece :: rest)).toList = first :: more ∧ first ≠ ':' := by
  obtain ⟨digit, more, digits_eq, not_colon⟩ := digits_cons piece
  cases rest with
  | nil => exact ⟨digit, more, by rw [toList_piecesText_singleton, digits_eq], not_colon⟩
  | cons next others =>
      refine ⟨digit, more ++ ':' :: (piecesText (next :: others)).toList, ?_, not_colon⟩
      rw [toList_piecesText_cons, digits_eq, List.cons_append]

/-- Pieces between colons are read to the end. -/
theorem readPieces_text (piece : UInt16) (rest : List UInt16)
    (room : reading.size + rest.length < 8) :
    readPieces reading (piecesText (piece :: rest)).toList =
      some (reading.push (piece :: rest)) := by
  induction rest generalizing reading piece with
  | nil =>
      rw [toList_piecesText_singleton]
      exact readPieces_last (by simpa using room) piece
  | cons next others induction =>
      have room_after : (reading.push [piece]).size + others.length < 8 := by
        rw [size_push]
        simp only [List.length_cons, List.length_nil] at room ⊢
        omega
      obtain ⟨first, more, text_eq, _⟩ := toList_piecesText_ne_nil next others
      rw [toList_piecesText_cons, text_eq, readPieces_piece (by omega), ← text_eq,
        induction next room_after, push_push]
      rfl

/-- Pieces between colons are read up to a colon behind them. -/
theorem readPieces_text_append (piece : UInt16) (rest : List UInt16)
    (room : reading.size + rest.length < 8) (next : Char) (others : List Char) :
    readPieces reading ((piecesText (piece :: rest)).toList ++ ':' :: next :: others) =
      readPieces (reading.push (piece :: rest)) (next :: others) := by
  induction rest generalizing reading piece with
  | nil =>
      rw [toList_piecesText_singleton]
      exact readPieces_piece (by simpa using room) piece next others
  | cons following rest induction =>
      have room_after : (reading.push [piece]).size + rest.length < 8 := by
        rw [size_push]
        simp only [List.length_cons, List.length_nil] at room ⊢
        omega
      obtain ⟨first, more, text_eq, _⟩ := toList_piecesText_ne_nil following rest
      rw [toList_piecesText_cons, text_eq, List.append_assoc, List.cons_append, List.cons_append,
        readPieces_piece (by omega), ← List.cons_append, ← text_eq, induction following room_after,
        push_push]
      rfl

end Pieces

/-! ### Whole addresses -/

/-- The longest run of zeros is one. -/
theorem longestZeroRun_zeros (pieces : List UInt16) :
    (longestZeroRun pieces).2 = 0 ∨
      ((pieces.drop (longestZeroRun pieces).1).takeWhile (· == 0)).length =
        (longestZeroRun pieces).2 := by
  rw [longestZeroRun]
  refine List.foldlRecOn _ _ (motive := fun best : Nat × Nat => best.2 = 0 ∨
    ((pieces.drop best.1).takeWhile (· == 0)).length = best.2) (.inl rfl) ?_
  rintro best best_run start _
  dsimp only
  split
  · exact .inr rfl
  · exact best_run

/-- Pieces around a run of zeros. -/
theorem eq_of_zeros {pieces : List UInt16} {start length : Nat}
    (zeros : ((pieces.drop start).takeWhile (· == 0)).length = length) :
    pieces.take start ++ List.replicate length 0 ++ pieces.drop (start + length) = pieces := by
  have run : (pieces.drop start).takeWhile (· == 0) = List.replicate length 0 := by
    refine List.eq_replicate_iff.mpr ⟨zeros, fun piece piece_mem => ?_⟩
    simpa using List.mem_takeWhile_imp piece_mem
  have rest : (pieces.drop start).dropWhile (· == 0) = pieces.drop (start + length) := by
    rw [← drop_length_takeWhile, zeros, List.drop_drop]
  rw [← run, ← rest, List.append_assoc, List.takeWhile_append_dropWhile, List.take_append_drop]

/-- An address that begins with a piece is read from that piece on. -/
theorem parse?_of_piece (piece : UInt16) (rest : List UInt16) (others : List Char) :
    parse? ((piecesText (piece :: rest)).toList ++ ':' :: others) =
      (readPieces ⟨[], none⟩ ((piecesText (piece :: rest)).toList ++ ':' :: others)).bind
        Reading.close := by
  have by_head (first second : Char) (more : List Char) (not_colon : first ≠ ':') :
      parse? (first :: second :: more) =
        (readPieces ⟨[], none⟩ (first :: second :: more)).bind Reading.close := by
    rw [parse?.eq_def]
    split <;> simp_all
  obtain ⟨first, more, text_eq, not_colon⟩ := toList_piecesText_ne_nil piece rest
  rw [text_eq]
  cases more with
  | nil => exact by_head first ':' others not_colon
  | cons second more => exact by_head first second (more ++ ':' :: others) not_colon

/-- The high piece of two. -/
theorem high_of_two {high low : Nat} (small : low < 65536) :
    (high * 65536 + low) / 65536 = high := by
  omega

/-- The low piece of two. -/
theorem low_of_two {high low : Nat} (small : low < 65536) : (high * 65536 + low) % 65536 = low := by
  omega

/-- Two pieces make up an IPv4 address. -/
theorem toNat_of_two (high low : UInt16) :
    (UInt32.ofNat (high.toNat * 65536 + low.toNat)).toNat = high.toNat * 65536 + low.toNat := by
  have bounded {high low : Nat} (high_lt : high < 65536) (low_lt : low < 65536) :
      high * 65536 + low < 4294967296 := by omega
  exact UInt32.toNat_ofNat_of_lt (bounded high.toNat_lt low.toNat_lt)

/-- An address that stands for an IPv4 address shows that one. -/
theorem parse?_mapped (high low : UInt16) :
    parse? ("::ffff:" ++ Ipv4.text (UInt32.ofNat (high.toNat * 65536 + low.toNat))).toList =
      some [0, 0, 0, 0, 0, 0xffff, high, low] := by
  have whole := toNat_of_two high low
  generalize UInt32.ofNat (high.toNat * 65536 + low.toNat) = address at whole ⊢
  have high_eq : UInt16.ofNat (address.toNat / 65536) = high := by
    rw [whole, high_of_two low.toNat_lt, UInt16.ofNat_toNat]
  have low_eq : UInt16.ofNat (address.toNat % 65536) = low := by
    rw [whole, low_of_two low.toNat_lt, UInt16.ofNat_toNat]
  have ones : digits 0xffff = ['f', 'f', 'f', 'f'] := by decide
  have text_eq : ("::ffff:" ++ Ipv4.text address).toList =
      ':' :: ':' :: (digits 0xffff ++ ':' :: (Ipv4.text address).toList) := by
    rw [ones, String.toList_append]
    rfl
  obtain ⟨first, rest, tail_eq⟩ : ∃ first rest, (Ipv4.text address).toList = first :: rest := by
    refine List.exists_cons_of_ne_nil fun empty => ?_
    have named := Ipv4.text_named address
    simp [String.toList_eq_nil_iff.mp empty] at named
  have tail : readPieces ⟨[], some [0xffff]⟩ (Ipv4.text address).toList =
      some ⟨[], some [0xffff, high, low]⟩ := by
    rw [readPieces_tail (by decide), high_eq, low_eq]
    rfl
  rw [text_eq, tail_eq, parse?, readPieces_piece (by decide), ← tail_eq]
  exact (congrArg (·.bind Reading.close) tail).trans rfl

section Close

variable {pieces before after : List UInt16} {length : Nat}

theorem close_left (eight : pieces.length = 8) : (Reading.mk pieces none).close = some pieces := by
  simp [Reading.close, eight]

/-- The gap stands for the zeros that are left out. -/
theorem close_gap (some_zeros : 0 < length)
    (eight : (before ++ List.replicate length 0 ++ after).length = 8) :
    (Reading.mk before (some after)).close =
      some (before ++ List.replicate length 0 ++ after) := by
  simp only [List.length_append, List.length_replicate] at eight
  have gap : 8 - before.length - after.length = length := by omega
  have fits : (Reading.mk before (some after)).size ≤ 8 := by
    simp only [Reading.size, Option.map_some, Option.getD_some]
    omega
  simp only [Reading.close, if_pos fits, gap]

/-- Pieces after a gap are read to the end. -/
theorem readPieces_right (room : before.length + after.length < 8) :
    readPieces ⟨before, some []⟩ (piecesText after).toList = some ⟨before, some after⟩ := by
  cases after with
  | nil => simp [piecesText, readPieces]
  | cons piece rest =>
      refine readPieces_text piece rest ?_
      simp only [List.length_cons] at room
      simp only [Reading.size, Option.map_some, Option.getD_some, List.length_nil]
      omega

/-- Pieces around a gap are read to the end. -/
theorem parse?_gap (some_zeros : 0 < length)
    (eight : (before ++ List.replicate length 0 ++ after).length = 8) :
    parse? (piecesText before ++ "::" ++ piecesText after).toList =
      some (before ++ List.replicate length 0 ++ after) := by
  have closed := close_gap some_zeros eight
  simp only [List.length_append, List.length_replicate] at eight
  have right : readPieces ⟨before, some []⟩ (piecesText after).toList =
      some ⟨before, some after⟩ := readPieces_right (by omega)
  have colons : "::".toList = [':', ':'] := rfl
  rw [String.toList_append, String.toList_append, colons, List.append_assoc]
  cases before with
  | nil =>
      have no_pieces : (piecesText []).toList = [] := rfl
      rw [no_pieces]
      simp only [List.nil_append, List.cons_append, parse?]
      rw [right, Option.bind_some, closed, List.nil_append]
  | cons piece rest =>
      simp only [List.length_cons] at eight
      have room : (Reading.mk [] none).size + rest.length < 8 := by
        simp only [Reading.size, List.length_nil, Option.map_none, Option.getD_none]
        omega
      have opened : readPieces ⟨piece :: rest, none⟩ (':' :: (piecesText after).toList) =
          readPieces ⟨piece :: rest, some []⟩ (piecesText after).toList := by
        have fits : ¬ (rest.length + 1 ≥ 8) := by omega
        simp [readPieces, Reading.size, fits]
      rw [List.cons_append, List.cons_append, List.nil_append, parse?_of_piece,
        readPieces_text_append piece rest room]
      rw [show (Reading.mk [] none).push (piece :: rest) = ⟨piece :: rest, none⟩ from rfl, opened,
        right, Option.bind_some, closed]

/-- Pieces without a gap are read to the end. -/
theorem parse?_pieces (eight : pieces.length = 8) :
    parse? (piecesText pieces).toList = some pieces := by
  obtain ⟨piece, next, rest, rfl⟩ : ∃ piece next rest, pieces = piece :: next :: rest := by
    obtain ⟨piece, others, rfl⟩ := List.exists_cons_of_length_eq_add_one eight
    obtain ⟨next, rest, rfl⟩ := List.exists_cons_of_length_eq_add_one (Nat.succ.inj eight)
    exact ⟨piece, next, rest, rfl⟩
  have room : (Reading.mk [] none).size + (next :: rest).length < 8 := by
    simp only [List.length_cons] at eight
    simp only [Reading.size, List.length_nil, Option.map_none, Option.getD_none, List.length_cons]
    omega
  have read := readPieces_text piece (next :: rest) room
  have closed := close_left eight
  have from_piece := parse?_of_piece piece [] (piecesText (next :: rest)).toList
  rw [toList_piecesText_singleton, ← toList_piecesText_cons, read] at from_piece
  exact from_piece.trans closed

end Close

/-- The text of an address stands for that address. -/
theorem parse?_text {pieces : List UInt16} (eight : pieces.length = 8) :
    parse? (Ipv6.text pieces).toList = some pieces := by
  rw [Ipv6.text.eq_def]
  split
  · exact parse?_mapped _ _
  · dsimp only
    split
    · exact parse?_pieces eight
    · rename_i several
      have zeros := (longestZeroRun_zeros pieces).resolve_left (by omega)
      have whole := eq_of_zeros zeros
      have read := parse?_gap (by omega) ((congrArg List.length whole).trans eight)
      rw [read, whole]

end Ipv6

end Courier.Url
