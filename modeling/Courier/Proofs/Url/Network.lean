import Courier.Proofs.Url.Host
import Courier.Url.Parser

/-!
# URLs of network schemes

A URL of a network scheme has a host that can be dialed and a path that begins with a slash,
whether it was parsed or resolved against another.
-/

namespace Courier

/-! ## Results of attempts -/

/-- Whatever an attempt results in has a property. -/
def Yields {ε α : Type} (holds : α → Prop) (attempt : Except ε α) : Prop :=
  ∀ result, attempt = .ok result → holds result

theorem toOption_eq_some_iff {ε α : Type} {attempt : Except ε α} {result : α} :
    attempt.toOption = some result ↔ attempt = .ok result := by
  cases attempt <;> simp [Except.toOption]

section Yields

variable {ε α β : Type} {holds weaker : α → Prop} {attempt : Except ε α}

theorem yields_ok {result : α} (sound : holds result) :
    Yields holds (.ok result : Except ε α) := by
  rintro _ ⟨⟩
  exact sound

theorem yields_error (error : ε) : Yields holds (.error error) := nofun

theorem yields_trivial (attempt : Except ε α) : Yields (fun _ => True) attempt :=
  fun _ _ => trivial

theorem Yields.weaken (yields : Yields holds attempt) (weaken : ∀ result, holds result →
    weaker result) : Yields weaker attempt :=
  fun result is_result => weaken result (yields result is_result)

theorem Yields.bind {final : β → Prop} {next : α → Except ε β} (yields : Yields holds attempt)
    (then_next : ∀ value, holds value → Yields final (next value)) :
    Yields final (attempt >>= next) := by
  cases attempt with
  | ok value => exact then_next value (yields value rfl)
  | error error => exact yields_error error

/-- Of two attempts that an attempt may begin with either yields what the rest relies on. -/
theorem yields_either {final : β → Prop} {condition : Prop} [Decidable condition]
    {first second : Except ε α} {next : α → Except ε β} (yields_first : Yields holds first)
    (yields_second : Yields holds second)
    (then_next : ∀ value, holds value → Yields final (next value)) :
    Yields final (if condition then first >>= next else second >>= next) := by
  split
  · exact yields_first.bind then_next
  · exact yields_second.bind then_next

/-- Past a check that may fail an attempt goes on as without it. -/
theorem yields_check {failing : Bool} {error : ε}
    (goes_on : failing = false → Yields holds attempt) :
    Yields holds (if failing then throw error else attempt) := by
  cases failing with
  | true => exact yields_error error
  | false => exact goes_on rfl

end Yields

namespace Url

/-! ## Paths -/

theorem addSegment_ne_nil (kind : SchemeKind) (segments : List String) (segment : List Char) :
    addSegment kind segments segment false ≠ [] := by
  rw [addSegment]
  split
  · simp
  · split
    · simp
    · split <;> simp

/-- A path that has been read has a segment. -/
theorem readSegments_ne_nil (kind : SchemeKind) (segments : List String)
    (segment chars : List Char) : (readSegments kind segments segment chars).1 ≠ [] := by
  induction chars generalizing segments segment with
  | nil =>
      rw [readSegments]
      dsimp only
      exact addSegment_ne_nil kind segments segment.reverse
  | cons char rest induction =>
      rw [readSegments]
      split
      · exact induction _ _
      · split
        · dsimp only
          exact addSegment_ne_nil kind segments segment.reverse
        · exact induction _ _

theorem readPath_ne_nil (kind : SchemeKind) (segments : List String) (chars : List Char) :
    (readPath kind segments chars).1 ≠ [] := by
  rw [readPath.eq_def]
  split
  · exact readSegments_ne_nil kind segments [] []
  · split
    · exact readSegments_ne_nil kind segments [] _
    · exact readSegments_ne_nil kind segments [] _

theorem readPathStart_network_ne_nil (chars : List Char) :
    (readPathStart .network chars).1 ≠ [] := readPath_ne_nil .network [] chars

/-! ## Network URLs -/

/-- A URL with a host that can be dialed and a path that begins with a slash. -/
structure Located (url : Url) : Prop where
  host : ∃ host, url.host = some host ∧ Bare host.text
  path : ∃ segments, url.path = .segments segments ∧ segments ≠ []

theorem hostText?_of_host {url : Url} {host : Host} (host_eq : url.host = some host) :
    url.hostText? = some host.text := by
  rw [hostText?, host_eq, Option.map_some]

/-- A network URL is located. -/
def Sound (url : Url) : Prop := url.kind = .network → Located url

theorem present_of_bare {host : Host} (bare : Bare host.text) : present? host = some host := by
  rw [present?.eq_def]
  split
  · have named := bare.named
    simp [Host.text] at named
  · rfl

theorem parseHost_bare (chars : List Char) :
    Yields (fun host : Host => Bare host.text) (parseHost chars) :=
  fun _ read => bare_of_parseHost read

theorem readHostAndPort_bare {scheme : String} (network : schemeKind scheme = .network)
    (chars : List Char) :
    Yields (fun found => ∃ host, found.1 = some host ∧ Bare host.text)
      (readHostAndPort scheme chars) := by
  have special : (schemeKind scheme).isSpecial = true := by rw [network]; rfl
  rw [readHostAndPort]
  refine yields_check fun _ => ?_
  rw [if_pos special]
  refine (parseHost_bare _).bind ?_
  intro host bare
  have present := present_of_bare bare
  split
  · refine yields_check fun _ => ?_
    refine (yields_trivial _).bind ?_
    rintro ⟨port, rest⟩ _
    exact yields_ok ⟨host, present, bare⟩
  · exact yields_ok ⟨host, present, bare⟩

theorem readAuthority_sound (scheme : String) (chars : List Char) :
    Yields (fun url => url.scheme = scheme ∧ Sound url) (readAuthority scheme chars) := by
  rw [readAuthority]
  refine (yields_trivial _).bind ?_
  rintro ⟨info, after_info⟩ _
  by_cases network : schemeKind scheme = .network
  · refine (readHostAndPort_bare network after_info).bind ?_
    rintro ⟨host, port, after_port⟩ bare
    refine yields_check fun _ => yields_ok ⟨rfl, fun _ => ⟨bare, _, rfl, ?_⟩⟩
    rw [network]
    exact readPathStart_network_ne_nil after_port
  · refine (yields_trivial _).bind ?_
    rintro ⟨host, port, after_port⟩ _
    exact yields_check fun _ => yields_ok ⟨rfl, fun is_network => absurd is_network network⟩

/-! ## Other URLs -/

theorem scheme_of_readOther (scheme : String) (chars : List Char) :
    Yields (fun url => url.scheme = scheme) (readOther scheme chars) := by
  rw [readOther.eq_def]
  split
  · exact (readAuthority_sound scheme _).weaken fun _ sound => sound.1
  · exact yields_ok rfl
  · exact yields_ok rfl

theorem scheme_of_fileReference {base : Option Url} (is_file : ∀ url ∈ base, url.scheme = "file")
    (chars : List Char) : (fileReference base chars).scheme = "file" := by
  rw [fileReference.eq_def]
  split
  · rfl
  · rename_i url
    exact is_file url rfl
  · rename_i url first rest
    dsimp only
    split
    · split <;> rfl
    · split
      · exact is_file url rfl
      · split <;> rfl

theorem scheme_of_readFile {base : Option Url} (is_file : ∀ url ∈ base, url.scheme = "file")
    (chars : List Char) : Yields (fun url => url.scheme = "file") (readFile base chars) := by
  rw [readFile.eq_def]
  split
  · split
    · refine (yields_trivial _).bind ?_
      rintro ⟨host, rest⟩ _
      exact yields_ok rfl
    · exact yields_ok (scheme_of_fileReference is_file _)
  · exact yields_ok (scheme_of_fileReference is_file _)

/-! ## References -/

theorem Located.of_readSegments {base : Url} (located : Located base) (kind : SchemeKind)
    (segments : List String) (chars : List Char) (query fragment : Option String) :
    Located { base with
      path := .segments (readSegments kind segments [] chars).1, query, fragment } :=
  ⟨located.host, _, rfl, readSegments_ne_nil kind segments [] chars⟩

/-- A reference keeps the scheme of the URL it is resolved against, and with it the host, unless it
names one. -/
theorem readRelative_sound {base : Url} (sound : Sound base) (chars : List Char) :
    Yields (fun url => url.scheme = base.scheme ∧ Sound url) (readRelative base chars) := by
  have onto (segments : List String) (chars : List Char) (query fragment : Option String) :
      Sound { base with
        path := .segments (readSegments base.kind segments [] chars).1, query, fragment } :=
    fun network => (sound network).of_readSegments base.kind segments chars query fragment
  have kept (query fragment : Option String) : Sound { base with query, fragment } :=
    fun network => ⟨(sound network).host, (sound network).path⟩
  rw [readRelative.eq_def]
  dsimp only
  split
  · exact yields_ok ⟨rfl, kept _ _⟩
  · exact yields_ok ⟨rfl, kept _ _⟩
  · exact yields_ok ⟨rfl, kept _ _⟩
  · exact readAuthority_sound base.scheme _
  · split
    · exact readAuthority_sound base.scheme _
    · split
      · exact yields_ok ⟨rfl, onto _ _ _ _⟩
      · exact yields_ok ⟨rfl, onto _ _ _ _⟩
  · split
    · exact yields_ok ⟨rfl, onto _ _ _ _⟩
    · exact yields_ok ⟨rfl, onto _ _ _ _⟩

theorem scheme_of_kind_file {url : Url} (is_file : url.kind = .file) : url.scheme = "file" := by
  rw [kind, schemeKind] at is_file
  split at is_file
  · rename_i named
    simpa using named
  · split at is_file <;> simp at is_file

theorem sound_of_file {url : Url} (is_file : url.scheme = "file") : Sound url := by
  intro network
  simp [kind, is_file, schemeKind] at network

theorem readAfterScheme_sound {base : Option Url} (sound : ∀ url ∈ base, Sound url)
    (scheme : String) (chars : List Char) : Yields Sound (readAfterScheme base scheme chars) := by
  rw [readAfterScheme.eq_def]
  split
  · refine (scheme_of_readFile ?_ chars).weaken fun _ => sound_of_file
    intro url url_mem
    simpa using (Option.filter_eq_some_iff.mp url_mem).2
  · rename_i other
    refine (scheme_of_readOther scheme chars).weaken ?_
    rintro url rfl network
    exact absurd (other.symm.trans network) (by decide)
  · dsimp only
    split
    · split
      · exact (readRelative_sound (sound _ rfl) chars).weaken fun _ read => read.2
      · exact (readAuthority_sound scheme _).weaken fun _ read => read.2
    · exact (readAuthority_sound scheme _).weaken fun _ read => read.2

/-- A network URL that has been parsed is located. -/
theorem parse_sound (text : String) : Yields Sound (parse text) := by
  rw [parse]
  split
  · exact readAfterScheme_sound (by simp) _ _
  · exact yields_error _

/-- A network URL that a reference stands for is located. -/
theorem join_sound {base : Url} (sound : Sound base) (reference : String) :
    Yields Sound (base.join reference) := by
  rw [join]
  split
  · refine readAfterScheme_sound ?_ _ _
    rintro url ⟨⟩
    exact sound
  · split
    · exact yields_ok fun network => ⟨(sound network).host, (sound network).path⟩
    · exact yields_error _
    · split
      · rename_i is_file
        refine (scheme_of_readFile ?_ _).weaken fun _ => sound_of_file
        rintro url ⟨⟩
        exact scheme_of_kind_file (by simpa using is_file)
      · exact (readRelative_sound sound _).weaken fun _ read => read.2

/-- The target of a located URL begins with a slash. -/
theorem Located.target_head {url : Url} (located : Located url) :
    url.target.toList.head? = some '/' := by
  obtain ⟨segments, path_eq, nonempty⟩ := located.path
  obtain ⟨first, rest, rfl⟩ := List.exists_cons_of_ne_nil nonempty
  have text_head : url.pathText.toList.head? = some '/' := by
    simp [pathText, path_eq, Path.text]
  rw [target.eq_def]
  split
  · exact text_head
  · simp [String.toList_append, text_head]

theorem Located.target_named {url : Url} (located : Located url) :
    url.target.isEmpty = false :=
  named_of_mem '/' (List.mem_of_mem_head? located.target_head)

end Url

end Courier
