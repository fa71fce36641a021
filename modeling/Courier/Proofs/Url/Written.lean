import Courier.Proofs.Idna.Plain
import Courier.Proofs.Url.Addresses
import Courier.Proofs.Url.Paths
import Courier.Proofs.Url.Ports

/-!
# URLs read back

A network URL without user information and fragment is read as it is written.  What it takes is
that its parts have the forms in which they are left by a first reading.
-/

namespace Courier

namespace Url

/-! ## Hosts -/

/-- A host as it is left by a reading. -/
inductive Host.Canonical : Host → Prop
  | domain {name : String} (named : name.isEmpty = false) (permitted : Idna.Permitted name.toList)
    (unnumbered : Ipv4.endsInNumber name.toList = false) : Canonical (.domain name)
  | ipv4 (address : UInt32) : Canonical (.ipv4 address)
  | ipv6 {pieces : List UInt16} (eight : pieces.length = 8) : Canonical (.ipv6 pieces)

/-- A host that is no domain name but one that is its own ASCII form.  Every plain name is; the
ASCII form of a long label may be too long to be read again. -/
def Host.Stable (host : Host) : Prop :=
  ∀ name, host = .domain name → Idna.isPlain name.toList = false →
    Idna.toAscii? name.toList = some name

theorem canonical_of_bracketed (chars : List Char) :
    Yields Host.Canonical (bracketed chars) := by
  rw [bracketed.eq_def]
  split
  · split
    · rename_i pieces read
      exact yields_ok (.ipv6 (Ipv6.parse_length read))
    · exact yields_error _
  · exact yields_error _

/-- A host that has been read is canonical. -/
theorem canonical_of_parseHost (chars : List Char) : Yields Host.Canonical (parseHost chars) := by
  rw [parseHost.eq_def]
  split
  · exact canonical_of_bracketed _
  · split
    · exact yields_error _
    · rename_i name name_read
      obtain ⟨text, _, ascii⟩ := Option.bind_eq_some_iff.mp name_read
      split
      · exact yields_error _
      · rename_i named
        split
        · split
          · exact yields_ok (.ipv4 _)
          · exact yields_error _
        · rename_i unnumbered
          exact yields_ok (.domain (Bool.eq_false_iff.mpr named) (Idna.permitted_toAscii ascii)
            (Bool.eq_false_iff.mpr unnumbered))

/-! ### Characters of an authority -/

/-- A character that may stand in an authority without user information. -/
structure InAuthority (char : Char) : Prop where
  goes_on : endsAuthority .network char = false
  no_sign : char ≠ '@'
  visible : isOuterBlank char = false

/-- The characters that would end an authority or user information. -/
def authorityMarks : List Char := ['/', '\\', '?', '#', '@']

theorem inAuthority_of (keeps : Char → Bool) {char : Char}
    (blanks : ∀ code ∈ List.range 33, keeps (Char.ofNat code) = false)
    (marks : authorityMarks.all (!keeps ·) = true) (kept : keeps char = true) :
    InAuthority char := by
  have no_mark : ∀ mark ∈ authorityMarks, char ≠ mark := by
    rintro mark mark_mem rfl
    simpa [kept] using List.all_eq_true.mp marks char mark_mem
  simp only [authorityMarks, List.forall_mem_cons] at no_mark
  obtain ⟨no_slash, no_backslash, no_question, no_number, no_sign, -⟩ := no_mark
  refine ⟨?_, no_sign, decide_eq_false fun blank => ?_⟩
  · simp [endsAuthority, isSlash, no_slash, no_backslash, no_question, no_number]
  · have blank := forall_char_lt (keeps · = false) blanks (Nat.lt_succ_of_le blank)
    exact Bool.noConfusion (kept.symm.trans blank)

theorem inAuthority_of_permitted {char : Char} (permitted : Idna.isForbidden char = false) :
    InAuthority char := by
  refine inAuthority_of (fun char => !Idna.isForbidden char) ?_ ?_ (by simpa using permitted)
  · decide +kernel
  · decide +kernel

/-- A character that a host is written with if it is an address. -/
def isLiteralMark (char : Char) : Bool := isAddressMark char || char == '[' || char == ']'

theorem inAuthority_of_literalMark {char : Char} (mark : isLiteralMark char = true) :
    InAuthority char := by
  refine inAuthority_of isLiteralMark ?_ ?_ mark
  · decide +kernel
  · decide +kernel

theorem inAuthority_of_addressMark {char : Char} (mark : isAddressMark char = true) :
    InAuthority char :=
  inAuthority_of_literalMark (by simp [isLiteralMark, mark])

/-! ### Hosts in writing -/

/-- A host as an authority has it. -/
def Host.written (host : Host) : List Char := (authorityHost host.text).toList

section Domains

variable {name : String}

theorem permitted_ne (permitted : Idna.Permitted name.toList) {mark : Char}
    (forbidden : Idna.isForbidden mark = true) : ∀ char ∈ name.toList, char ≠ mark := by
  rintro char char_mem rfl
  exact Bool.noConfusion ((permitted char char_mem).symm.trans forbidden)

theorem written_domain (permitted : Idna.Permitted name.toList) :
    (Host.domain name).written = name.toList := by
  rw [Host.written, Host.text, authorityHost_of_no_colon (permitted_ne permitted (by decide))]

/-- A text without a percent sign has nothing to decode. -/
theorem unescape_of_unescaped {chars : List Char} (unescaped : ∀ char ∈ chars, char ≠ '%') :
    unescape chars = chars.flatMap String.utf8EncodeChar := by
  induction chars with
  | nil => rfl
  | cons char rest induction =>
      obtain ⟨no_percent, unescaped⟩ := List.forall_mem_cons.mp unescaped
      rw [unescape.eq_2 char rest (by rintro high low rest rfl; exact absurd rfl no_percent),
        induction unescaped, List.flatMap_cons]

/-- The host that a name in ASCII stands for. -/
inductive Host.Names (name : String) : Host → Prop
  | domain (unnumbered : Ipv4.endsInNumber name.toList = false) : Names name (.domain name)
  | ipv4 {address : UInt32} (numbered : Ipv4.endsInNumber name.toList = true)
    (read : Ipv4.parse? name.toList = some address) : Names name (.ipv4 address)

/-- A name that is its own ASCII form is read as it is. -/
theorem parseHost_name {host : Host} (permitted : Idna.Permitted name.toList)
    (named : name.isEmpty = false) (ascii : Idna.toAscii? name.toList = some name)
    (names : host.Names name) : parseHost name.toList = .ok host := by
  have read : (Bytes.toString? (unescape name.toList)).bind
      (fun text => Idna.toAscii? text.toList) = some name := by
    rw [unescape_of_unescaped (permitted_ne permitted (by decide)), Bytes.toString?_flatMap,
      String.ofList_toList]
    exact ascii
  have unbracketed : ∀ char ∈ name.toList, char ≠ '[' := permitted_ne permitted (by decide)
  rw [parseHost.eq_def]
  split
  · rename_i rest opened
    exact absurd rfl (unbracketed '[' (by simp [opened]))
  · cases names with
    | domain unnumbered => simp [read, named, unnumbered]
    | ipv4 numbered address_read => simp [read, named, numbered, address_read]

theorem parseHost_domain (named : name.isEmpty = false) (permitted : Idna.Permitted name.toList)
    (unnumbered : Ipv4.endsInNumber name.toList = false) (stable : (Host.domain name).Stable) :
    parseHost name.toList = .ok (.domain name) := by
  refine parseHost_name permitted named ?_ (.domain unnumbered)
  cases plain : Idna.isPlain name.toList with
  | true => rw [Idna.toAscii?_of_plain plain permitted, String.ofList_toList]
  | false => exact stable name rfl plain

end Domains

section Addresses

variable (address : UInt32)

/-- An IPv4 address in writing consists of digits and dots. -/
theorem mem_text_ipv4 : ∀ char ∈ (Ipv4.text address).toList, char.isDigit = true ∨ char = '.' := by
  have in_dot : ∀ char ∈ ".".toList, char.isDigit = true ∨ char = '.' := by simp
  refine forall_mem_toList_intercalate in_dot fun part part_mem char char_mem => .inl ?_
  obtain ⟨value, _, rfl⟩ := List.mem_map.mp part_mem
  exact isDigit_of_mem_toString char_mem

theorem toNat_lt_of_isDigit {char : Char} (digit : char.isDigit = true) : char.toNat < 128 := by
  have most : char.val ≤ 57 := of_decide_eq_true (Bool.and_eq_true_iff.mp digit).2
  exact Nat.lt_of_le_of_lt (UInt32.le_iff_toNat_le.mp most) (by decide)

/-- A digit or a dot stands for itself in a domain name. -/
theorem plain_mark {char : Char} (mark : char.isDigit = true ∨ char = '.') :
    Idna.isForbidden char = false ∧ Idna.isAscii char = true ∧ char.isUpper = false ∧
      char ≠ 'x' := by
  rcases mark with digit | rfl
  · refine forall_char_lt (fun char => char.isDigit = true → Idna.isForbidden char = false ∧
      Idna.isAscii char = true ∧ char.isUpper = false ∧ char ≠ 'x') ?_
        (toNat_lt_of_isDigit digit) digit
    decide +kernel
  · decide

theorem permitted_ipv4 : Idna.Permitted (Ipv4.text address).toList :=
  fun char char_mem => (plain_mark (mem_text_ipv4 address char char_mem)).1

theorem plain_ipv4 : Idna.isPlain (Ipv4.text address).toList = true := by
  have marks (char : Char) (char_mem : char ∈ (Ipv4.text address).toList) :=
    (plain_mark (mem_text_ipv4 address char char_mem)).2
  simp only [Idna.isPlain, Bool.and_eq_true, List.all_eq_true, Bool.not_eq_true']
  refine ⟨fun char char_mem => ⟨(marks char char_mem).1, (marks char char_mem).2.1⟩, ?_⟩
  intro label label_mem
  refine Bool.eq_false_iff.mpr fun marked => ?_
  have x_mem : 'x' ∈ label :=
    (List.isPrefixOf_iff_prefix.mp marked).subset (by simp [Idna.asciiMark])
  exact (marks 'x' (Idna.mem_of_mem_labelTexts label_mem x_mem)).2.2 rfl

theorem written_ipv4 : (Host.ipv4 address).written = (Ipv4.text address).toList := by
  rw [Host.written, Host.text,
    authorityHost_of_no_colon (permitted_ne (permitted_ipv4 address) (by decide))]

theorem parseHost_ipv4 : parseHost (Ipv4.text address).toList = .ok (.ipv4 address) := by
  refine parseHost_name (permitted_ipv4 address) (Ipv4.text_named address) ?_
    (.ipv4 (Ipv4.endsInNumber_text address) (Ipv4.parse?_text address))
  rw [Idna.toAscii?_of_plain (plain_ipv4 address) (permitted_ipv4 address), String.ofList_toList]

variable {pieces : List UInt16}

theorem colon_mem_piecesText (piece next : UInt16) (rest : List UInt16) :
    ':' ∈ (Ipv6.piecesText (piece :: next :: rest)).toList := by
  simp [Ipv6.toList_piecesText_cons]

theorem colon_mem_ipv6 (eight : pieces.length = 8) : ':' ∈ (Ipv6.text pieces).toList := by
  obtain ⟨piece, others, rfl⟩ := List.exists_cons_of_length_eq_add_one eight
  obtain ⟨next, rest, rfl⟩ := List.exists_cons_of_length_eq_add_one (Nat.succ.inj eight)
  rw [Ipv6.text.eq_def]
  split
  · simp
  · dsimp only
    split
    · exact colon_mem_piecesText piece next rest
    · simp

theorem written_ipv6 (eight : pieces.length = 8) :
    (Host.ipv6 pieces).written = '[' :: ((Ipv6.text pieces).toList ++ [']']) := by
  have colon := colon_mem_ipv6 eight
  have unopened : (Ipv6.text pieces).toList.head? ≠ some '[' := by
    intro opened
    have mark := Ipv6.addressed_text pieces '[' (List.mem_of_mem_head? opened)
    exact absurd mark (by decide)
  rw [Host.written, Host.text, authorityHost, if_pos (by simp [colon, unopened])]
  simp [String.toList_append]

theorem parseHost_ipv6 (eight : pieces.length = 8) :
    parseHost ('[' :: ((Ipv6.text pieces).toList ++ [']'])) = .ok (.ipv6 pieces) := by
  simp [parseHost, bracketed, Ipv6.parse?_text eight]

end Addresses

section Hosts

variable {host : Host}

/-- A canonical host is read as it is written. -/
theorem parseHost_written (canonical : host.Canonical) (stable : host.Stable) :
    parseHost host.written = .ok host := by
  cases canonical with
  | domain named permitted unnumbered =>
      rw [written_domain permitted]
      exact parseHost_domain named permitted unnumbered stable
  | ipv4 address =>
      rw [written_ipv4]
      exact parseHost_ipv4 address
  | ipv6 eight =>
      rw [written_ipv6 eight]
      exact parseHost_ipv6 eight

theorem inAuthority_written (canonical : host.Canonical) :
    ∀ char ∈ host.written, InAuthority char := by
  intro char char_mem
  cases canonical with
  | domain named permitted unnumbered =>
      rw [written_domain permitted] at char_mem
      exact inAuthority_of_permitted (permitted char char_mem)
  | ipv4 address =>
      rw [written_ipv4] at char_mem
      exact inAuthority_of_addressMark (Ipv4.addressed_text address char char_mem)
  | ipv6 eight =>
      rw [written_ipv6 eight] at char_mem
      simp only [List.mem_cons, List.mem_append, List.not_mem_nil, or_false] at char_mem
      rcases char_mem with rfl | inner | rfl
      · exact inAuthority_of_literalMark (by decide)
      · exact inAuthority_of_addressMark (Ipv6.addressed_text _ char inner)
      · exact inAuthority_of_literalMark (by decide)

/-- A host goes on while no colon is outside brackets. -/
theorem afterHost_append {chars : List Char} {inBrackets : Bool}
    (goes_on : ∀ char ∈ chars, char ≠ '[' ∧ char ≠ ']' ∧ (inBrackets = false → char ≠ ':'))
    (rest : List Char) : afterHost inBrackets (chars ++ rest) = afterHost inBrackets rest := by
  induction chars with
  | nil => rfl
  | cons char more induction =>
      obtain ⟨⟨unopened, unclosed, no_colon⟩, goes_on⟩ := List.forall_mem_cons.mp goes_on
      rw [List.cons_append, afterHost, if_neg]
      · rw [← induction goes_on]
        congr 1
        cases inBrackets <;> simp [unopened, unclosed]
      · cases inBrackets <;> simp_all

theorem afterHost_written (canonical : host.Canonical) (rest : List Char) :
    afterHost false (host.written ++ rest) = afterHost false rest := by
  have of_permitted {name : String} (permitted : Idna.Permitted name.toList) :
      afterHost false (name.toList ++ rest) = afterHost false rest :=
    afterHost_append (fun char char_mem => ⟨permitted_ne permitted (by decide) char char_mem,
      permitted_ne permitted (by decide) char char_mem,
      fun _ => permitted_ne permitted (by decide) char char_mem⟩) rest
  cases canonical with
  | domain named permitted unnumbered =>
      rw [written_domain permitted]
      exact of_permitted permitted
  | ipv4 address =>
      rw [written_ipv4]
      exact of_permitted (permitted_ipv4 address)
  | @ipv6 pieces eight =>
      have bare := bare_of_addressed (Ipv6.text_named (by
        rintro rfl
        simp at eight)) (Ipv6.addressed_text pieces)
      have inner : afterHost true ((Ipv6.text pieces).toList ++ ']' :: rest) =
          afterHost true (']' :: rest) :=
        afterHost_append (fun char char_mem => ⟨(bare.unbracketed char char_mem).1,
          (bare.unbracketed char char_mem).2, by simp⟩) _
      rw [written_ipv6 eight]
      simpa [afterHost] using inner

end Hosts

/-! ## Ports -/

/-- A port as an authority has it. -/
def writtenPort : Option UInt16 → List Char
  | none => []
  | some port => ':' :: Nat.toDigits 10 port.toNat

/-- A port that the scheme does not imply. -/
def NamedPort (scheme : String) (port : Option UInt16) : Prop :=
  ∀ value ∈ port, knownPort? scheme ≠ some value

theorem namedPort_named (scheme : String) (number : Option Nat) :
    NamedPort scheme (readPort.named scheme number) := by
  intro value value_mem
  rw [readPort.named] at value_mem
  simpa using (Option.filter_eq_some_iff.mp value_mem).2

theorem namedPort_readPort (scheme : String) (chars : List Char) :
    Yields (fun found => NamedPort scheme found.1) (readPort scheme none chars) := by
  refine (readPort_digits scheme fits_none chars).weaken ?_
  rintro found ⟨_, port_eq⟩
  rw [port_eq]
  exact namedPort_named scheme _

theorem toList_authority {host : String} {port : Option UInt16} {standard : UInt16}
    (named : port ≠ some standard) :
    (authority host (port.getD standard) standard).toList =
      (authorityHost host).toList ++ writtenPort port := by
  cases port with
  | none => simp [authority, writtenPort]
  | some port =>
      have other : port ≠ standard := fun same => named (congrArg some same)
      have digits : (toString port).toList = Nat.toDigits 10 port.toNat := String.toList_ofList
      simp [authority, writtenPort, other, String.toList_append, digits]

theorem withDigits_toDigits (value : Nat) :
    withDigits none (Nat.toDigits 10 value) = some value := by
  have read : Ascii.ofDigits 10 (Nat.toDigits 10 value) = value :=
    Ascii.ofDigits_toDigits (by decide) (by decide) value
  obtain ⟨digit, rest, digits_eq⟩ :=
    List.exists_cons_of_ne_nil (Nat.toDigits_ne_nil (n := value) (b := 10))
  rw [digits_eq] at read ⊢
  rw [withDigits_none, read]

theorem le_of_withDigits {value total : Nat} {digits : List Char}
    (read : withDigits (some value) digits = some total) : value ≤ total := by
  induction digits generalizing value with
  | nil =>
      cases read
      exact Nat.le_refl _
  | cons digit rest induction =>
      have larger : value * 10 + Ascii.digitValue digit ≤ total := induction read
      omega

/-- The digits of a port are read up to the slash behind them. -/
theorem readPort_written (scheme : String) {value : Option Nat} {digits rest : List Char}
    (are_digits : ∀ digit ∈ digits, digit.isDigit = true)
    (fits : Fits (withDigits value digits)) (slash : rest.head? = some '/') :
    readPort scheme value (digits ++ rest) =
      .ok (readPort.named scheme (withDigits value digits), rest) := by
  induction digits generalizing value with
  | nil =>
      obtain ⟨others, rfl⟩ : ∃ others, rest = '/' :: others := List.head?_eq_some_iff.mp slash
      simp [readPort, withDigits]
  | cons digit more induction =>
      obtain ⟨is_digit, are_digits⟩ := List.forall_mem_cons.mp are_digits
      have shifted : withDigits value (digit :: more) =
          withDigits (some (value.getD 0 * 10 + Ascii.digitValue digit)) more := rfl
      rw [shifted] at fits ⊢
      have small : ¬ value.getD 0 * 10 + Ascii.digitValue digit > 65535 := by
        rw [withDigits_some] at fits
        have total := fits _ rfl
        have larger := le_of_withDigits (withDigits_some
          (value.getD 0 * 10 + Ascii.digitValue digit) more)
        omega
      rw [List.cons_append, readPort, is_digit, if_pos rfl]
      dsimp only
      rw [if_neg small]
      exact induction are_digits fits

/-! ## Authorities -/

section Authorities

variable {scheme : String} {host : Host} {port : Option UInt16} {rest : List Char}

theorem inAuthority_port : ∀ char ∈ writtenPort port, InAuthority char := by
  cases port with
  | none => simp [writtenPort]
  | some port =>
      refine List.forall_mem_cons.mpr ⟨inAuthority_of_addressMark (by decide), ?_⟩
      intro char char_mem
      have digit := isDigit_of_mem_decimal char_mem
      exact inAuthority_of_addressMark (by simp [isAddressMark, Ascii.isHexDigit, digit])

/-- A host and a port in an authority. -/
theorem inAuthority_hostAndPort (port : Option UInt16) (canonical : host.Canonical) :
    ∀ char ∈ host.written ++ writtenPort port, InAuthority char :=
  List.forall_mem_append.mpr ⟨inAuthority_written canonical, inAuthority_port⟩

theorem afterHost_port : afterHost false (writtenPort port) = writtenPort port := by
  cases port <;> simp [writtenPort, afterHost]

theorem ends_of_slash (slash : rest.head? = some '/') :
    ∀ char ∈ rest.head?, endsAuthority .network char = true := by
  rw [slash]
  rintro _ ⟨⟩
  decide

/-- Without user information nothing is split off. -/
theorem splitUserInfo_written {chars : List Char} (within : ∀ char ∈ chars, InAuthority char)
    (slash : rest.head? = some '/') :
    splitUserInfo .network (chars ++ rest) = .ok ({}, chars ++ rest) := by
  have goes_on : ∀ char ∈ chars, (!endsAuthority .network char) = true :=
    fun char char_mem => by simp [(within char char_mem).goes_on]
  have authority_eq : (chars ++ rest).takeWhile (fun char => !endsAuthority .network char) =
      chars := by
    have stops : ∀ char ∈ rest.head?, (!endsAuthority .network char) = false :=
      fun char char_mem => by simp [ends_of_slash slash char char_mem]
    rw [takeWhile_append_of_head stops, List.takeWhile_eq_self_iff.mpr goes_on]
  have no_sign : chars.contains '@' = false := by
    rw [List.contains_eq_mem, decide_eq_false_iff_not]
    exact fun sign_mem => (within '@' sign_mem).no_sign rfl
  simp only [splitUserInfo, authority_eq, no_sign, Bool.not_false, if_true]

/-- Where a host ends that a port or a slash follows. -/
theorem take_hostLength (port : Option UInt16) (canonical : host.Canonical)
    (slash : rest.head? = some '/') :
    let chars := host.written ++ writtenPort port ++ rest
    chars.take (hostLength .network false chars) = host.written ∧
      chars.drop (hostLength .network false chars) = writtenPort port ++ rest := by
  intro chars
  have within : ∀ char ∈ host.written ++ writtenPort port, endsAuthority .network char = false :=
    fun char char_mem => (inAuthority_hostAndPort port canonical char char_mem).goes_on
  have behind : chars.drop (hostLength .network false chars) = writtenPort port ++ rest := by
    rw [drop_hostLength within (ends_of_slash slash), afterHost_written canonical, afterHost_port]
  have whole := List.take_append_drop (hostLength .network false chars) chars
  rw [behind] at whole
  exact ⟨List.append_cancel_right (whole.trans (List.append_assoc ..)), behind⟩

theorem written_named (named : host.text.isEmpty = false) : host.written.isEmpty = false := by
  rw [Host.written, authorityHost]
  split
  · simp
  · exact Bool.eq_false_iff.mpr fun empty => by
      simp [String.toList_eq_nil_iff.mp (List.isEmpty_iff.mp empty)] at named

/-- A host and a port are read as they are written. -/
theorem readHostAndPort_written (network : schemeKind scheme = .network)
    (canonical : host.Canonical) (stable : host.Stable) (named : NamedPort scheme port)
    (slash : rest.head? = some '/') :
    readHostAndPort scheme (host.written ++ writtenPort port ++ rest) =
      .ok (some host, port, rest) := by
  obtain ⟨host_eq, behind⟩ := take_hostLength port canonical slash
  have host_read := parseHost_written canonical stable
  have bare := bare_of_parseHost host_read
  have present := present_of_bare bare
  have some_char := written_named bare.named
  rw [readHostAndPort, network]
  simp only [host_eq, behind, some_char, SchemeKind.isSpecial, Bool.false_and, host_read]
  cases port with
  | none =>
      obtain ⟨others, rfl⟩ : ∃ others, rest = '/' :: others := List.head?_eq_some_iff.mp slash
      simp [writtenPort, present, bind, Except.bind, pure, Except.pure]
  | some port =>
      have digits : ∀ digit ∈ Nat.toDigits 10 port.toNat, digit.isDigit = true :=
        fun digit digit_mem => isDigit_of_mem_decimal digit_mem
      have number := withDigits_toDigits port.toNat
      have fits : Fits (withDigits none (Nat.toDigits 10 port.toNat)) := by
        rw [number]
        rintro _ ⟨⟩
        exact port.toNat_lt
      have other := named port rfl
      have port_eq : readPort.named scheme (some port.toNat) = some port := by
        rw [readPort.named, Option.map_some, UInt16.ofNat_toNat, Option.filter_some, if_pos]
        simpa using other
      have port_read := readPort_written scheme digits fits slash
      rw [number, port_eq] at port_read
      simp [writtenPort, present, port_read, bind, Except.bind, pure, Except.pure]

/-- A URL that was read from an authority and what follows it is read so again. -/
theorem readAuthority_written {segments : List String} {query : Option String}
    (network : schemeKind scheme = .network) (canonical : host.Canonical) (stable : host.Stable)
    (named : NamedPort scheme port) (some_segment : segments ≠ []) (path : PlainPath segments)
    (settled : ∀ text ∈ query, Settled specialQuerySet text.toList) :
    readAuthority scheme (host.written ++ writtenPort port ++
      (writtenPath segments ++ writtenQuery query)) =
        .ok { scheme, host := some host, port, path := .segments segments, query } := by
  have slash : (writtenPath segments ++ writtenQuery query).head? = some '/' := by
    obtain ⟨first, others, rfl⟩ := List.exists_cons_of_ne_nil some_segment
    simp [writtenPath]
  have split_off := splitUserInfo_written (inAuthority_hostAndPort port canonical) slash
  have host_read := readHostAndPort_written network canonical stable named slash
  have path_read := readPathStart_written some_segment path (endsPath_writtenQuery query)
  have tail_read := readTail_written settled
  rw [readAuthority, network]
  generalize host.written ++ writtenPort port ++ (writtenPath segments ++ writtenQuery query) =
    chars at split_off host_read ⊢
  simp [split_off, host_read, path_read, tail_read, bind, Except.bind, pure, Except.pure]

end Authorities

/-! ## Whole URLs -/

/-- A network URL as it is left by a reading. -/
structure Canonical (url : Url) : Prop where
  host : ∃ host, url.host = some host ∧ host.Canonical
  port : NamedPort url.scheme url.port
  path : ∃ segments, url.path = .segments segments ∧ segments ≠ [] ∧ PlainPath segments
  query : ∀ query ∈ url.query, Settled specialQuerySet query.toList

theorem readHostAndPort_canonical {scheme : String} (network : schemeKind scheme = .network)
    (chars : List Char) :
    Yields (fun found => (∃ host, found.1 = some host ∧ host.Canonical) ∧
        NamedPort scheme found.2.1)
      (readHostAndPort scheme chars) := by
  have special : (schemeKind scheme).isSpecial = true := by rw [network]; rfl
  have host_read (chars : List Char) :
      Yields (fun host => host.Canonical ∧ Bare host.text) (parseHost chars) :=
    fun host read => ⟨canonical_of_parseHost chars host read, bare_of_parseHost read⟩
  rw [readHostAndPort]
  refine yields_check fun _ => ?_
  rw [if_pos special]
  refine (host_read _).bind ?_
  rintro host ⟨canonical, bare⟩
  have present := present_of_bare bare
  split
  · refine yields_check fun _ => ?_
    refine (namedPort_readPort scheme _).bind ?_
    rintro ⟨port, rest⟩ named
    exact yields_ok ⟨⟨host, present, canonical⟩, named⟩
  · exact yields_ok ⟨⟨host, present, canonical⟩, by simp [NamedPort]⟩

theorem readAuthority_canonical {scheme : String} (network : schemeKind scheme = .network)
    (chars : List Char) :
    Yields (fun url => url.scheme = scheme ∧ url.Canonical) (readAuthority scheme chars) := by
  rw [readAuthority]
  refine (yields_trivial _).bind ?_
  rintro ⟨info, after_info⟩ _
  refine (readHostAndPort_canonical network after_info).bind ?_
  rintro ⟨host, port, after_port⟩ ⟨canonical, named⟩
  refine yields_check fun _ => yields_ok ⟨rfl, canonical, named, ⟨_, rfl, ?_, ?_⟩, ?_⟩
  · rw [network]
    exact readPathStart_network_ne_nil after_port
  · rw [network]
    exact plainPath_readPath after_port
  · rw [network]
    exact settled_readTail _

/-- A network URL that has been parsed is canonical. -/
theorem parse_canonical (text : String) :
    Yields (fun url => url.kind = .network → url.Canonical) (parse text) := by
  rw [parse]
  split
  · rename_i scheme chars _
    rw [readAfterScheme.eq_def]
    cases kind_eq : schemeKind scheme with
    | file =>
        refine (scheme_of_readFile (by simp) chars).weaken ?_
        intro url scheme_eq network
        simp [kind, scheme_eq, schemeKind] at network
    | other =>
        refine (scheme_of_readOther scheme chars).weaken ?_
        rintro url rfl network
        exact absurd (kind_eq.symm.trans network) (by decide)
    | network =>
        exact (readAuthority_canonical kind_eq _).weaken fun _ read _ => read.2
  · exact yields_error _

end Url

end Courier
