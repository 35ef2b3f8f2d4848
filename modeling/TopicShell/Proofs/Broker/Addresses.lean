import TopicShell.Broker.Client
import TopicShell.Proofs.Broker.Uris
import TopicShell.Proofs.Text.Letters

/-!
# Which addresses can be read

* `written_parsed`: what is written as a scheme, a host, a port and a path in plain characters is read back, also
  without the scheme;
* `address_explained_iff`: a text that is no address is explained to the user, unless the identifier in it is malformed
  (`Malformed`), and every address that is read can be connected to.
-/

namespace TopicShell.Text

theorem contains_iff {sep cs : List Char} : contains sep cs = true ↔ sep <:+: cs := by
  rw [contains]
  induction cs with
  | nil =>
    rw [cutAt]
    by_cases hsep : sep = []
    · simp [hsep]
    · simp [hsep]
  | cons c cs ih =>
    rw [cutAt, List.infix_cons_iff]
    by_cases hfront : sep <+: c :: cs
    · simp [hfront, List.isPrefixOf_iff_prefix.mpr hfront]
    · have hnot : ¬ sep.isPrefixOf (c :: cs) = true := fun h => hfront (List.isPrefixOf_iff_prefix.mp h)
      rw [if_neg hnot, or_iff_right hfront, ← ih]

end TopicShell.Text

namespace TopicShell.Broker

/-- The user is told what is wrong with the address; any other error ends the program like a fault of its own. -/
def AddressError.isExplained : AddressError → Bool
  | .malformed _ => false
  | .unsupported _ | .noHost _ => true

/-- Like `AddressError.isExplained`, for all that may happen to a connection. -/
def ConnectionError.isExplained : ConnectionError → Bool
  | .missing | .refused _ => true
  | .address cause => cause.isExplained
  | .unexpected _ => false

namespace Address

open TopicShell.Text

/-! ## Addresses that are written plainly -/

/-- Lower-case letters, digits, points and hyphens. -/
def isHostChar (c : Char) : Bool :=
  c.isLower || c.isDigit || c = '.' || c = '-'

/-- The characters that never stand for anything else in an identifier. -/
def isUnreserved (c : Char) : Bool :=
  c.isAlphanum || c = '-' || c = '.' || c = '_' || c = '~'

theorem isUnreserved_of_isHostChar {c : Char} (h : isHostChar c = true) : isUnreserved c = true := by
  simp only [isHostChar, Bool.or_eq_true] at h
  rcases h with ((h | h) | h) | h <;> simp [isUnreserved, isAlphanum_iff, isAlpha_iff, h]

theorem isUnreserved_bounds {c : Char} (h : isUnreserved c = true) : 0x20 < c.toNat ∧ c.toNat < 0x80 := by
  simp only [isUnreserved, Bool.or_eq_true, isAlphanum_iff_toNat, decide_eq_true_eq] at h
  rcases h with (((h | rfl) | rfl) | rfl) | rfl
  · omega
  all_goals decide

theorem isUpper_of_isHostChar {c : Char} (h : isHostChar c = true) : c.isUpper = false := by
  by_contra hupper
  rw [Bool.not_eq_false, isUpper_iff] at hupper
  simp only [isHostChar, Bool.or_eq_true, isLower_iff, isDigit_iff, decide_eq_true_eq] at h
  rcases h with (h | rfl) | rfl
  · omega
  all_goals exact absurd hupper (by decide)

/-- A host, a port or none, and a path or none, in characters that stand for themselves. -/
structure Location where
  host : String
  port : Option Nat
  path : String
  host_ne_empty : host ≠ ""
  host_chars : ∀ c ∈ host.toList, isHostChar c = true
  port_range : ∀ p ∈ port, 1 ≤ p ∧ p ≤ 65535
  path_chars : path = "" ∨ ∃ rest, path = "/" ++ rest ∧ ∀ c ∈ rest.toList, isUnreserved c = true

namespace Location

variable (l : Location)

/-- The port as it is written behind the host. -/
def portText : String :=
  match l.port with
  | some p => ":" ++ toString p
  | none => ""

def authority : String :=
  l.host ++ l.portText

def written : String :=
  l.authority ++ l.path

/-- The address of the location under a scheme. -/
def address (s : Scheme) : Address := {
  scheme := s
  host := l.host
  port := l.port.getD s.defaultPort
  path := if l.path = "" then "/" else l.path }

/-- The digits of the port. -/
def digits : List Char :=
  match l.port with
  | some p => Nat.toDigits 10 p
  | none => []

theorem isDigit_of_mem_digits {c : Char} (h : c ∈ l.digits) : c.isDigit = true := by
  rw [digits] at h
  split at h
  · exact Nat.isDigit_of_mem_toDigits (by decide) (Nat.le_refl 10) h
  · exact absurd h List.not_mem_nil

theorem authority_toList :
    (l.port = none ∧ l.authority.toList = l.host.toList ∧ l.digits = []) ∨
    l.authority.toList = l.host.toList ++ ':' :: l.digits := by
  rw [authority, String.toList_append, portText, digits]
  cases l.port with
  | none => exact .inl ⟨rfl, List.append_nil _, rfl⟩
  | some p => right; simp

theorem char_of_mem_authority {c : Char} (h : c ∈ l.authority.toList) : isHostChar c = true ∨ c = ':' := by
  rcases l.authority_toList with ⟨_, heq, _⟩ | heq
  · exact .inl (l.host_chars c (heq ▸ h))
  · rw [heq, List.mem_append, List.mem_cons] at h
    rcases h with h | h | h
    · exact .inl (l.host_chars c h)
    · exact .inr h
    · left
      simp [isHostChar, l.isDigit_of_mem_digits h]

theorem not_mem_authority {c : Char} (h : isHostChar c = false) (hcolon : c ≠ ':') : c ∉ l.authority.toList := by
  intro hmem
  rcases l.char_of_mem_authority hmem with hchar | hchar
  · exact absurd (hchar.symm.trans h) (by decide)
  · exact hcolon hchar

theorem not_mem_host {c : Char} (h : isHostChar c = false) : c ∉ l.host.toList :=
  fun hmem => absurd ((l.host_chars c hmem).symm.trans h) (by decide)

theorem authority_bounds {c : Char} (h : c ∈ l.authority.toList) : 0x20 < c.toNat ∧ c.toNat < 0x80 := by
  rcases l.char_of_mem_authority h with hchar | rfl
  · exact isUnreserved_bounds (isUnreserved_of_isHostChar hchar)
  · decide

theorem path_bounds {c : Char} (h : c ∈ l.path.toList) : 0x20 < c.toNat ∧ c ≠ '?' ∧ c ≠ '#' := by
  rcases l.path_chars with hpath | ⟨rest, hpath, hrest⟩
  · simp [hpath] at h
  · rw [hpath, String.toList_append, List.mem_append] at h
    rcases h with h | h
    · obtain rfl : c = '/' := by simpa using h
      decide
    · have hchar := hrest c h
      refine ⟨(isUnreserved_bounds hchar).1, ?_, ?_⟩
      · rintro rfl
        exact absurd hchar (by decide)
      · rintro rfl
        exact absurd hchar (by decide)

theorem readable : Uri.Readable l.authority.toList l.host.toList l.digits where
  reads := by
    have hinfo : Uri.IsInfo l.authority.toList l.authority.toList :=
      ⟨l.not_mem_authority (by decide) (by decide), .inl rfl⟩
    have hopen : '[' ∉ l.authority.toList := l.not_mem_authority (by decide) (by decide)
    have hcolon : ':' ∉ l.host.toList := l.not_mem_host (by decide)
    refine ⟨_, hinfo, ?_⟩
    rcases l.authority_toList with ⟨_, heq, hdigits⟩ | heq
    · rw [heq, hdigits]
      exact .bare (heq ▸ hopen) hcolon
    · rw [heq] at hopen ⊢
      exact .barePort hopen hcolon
  brackets := iff_of_false (l.not_mem_authority (by decide) (by decide)) (l.not_mem_authority (by decide) (by decide))
  literal h := absurd h (l.not_mem_authority (by decide) (by decide))
  plain c hc hexpands := by
    have hlarge : ∀ n ∈ Uri.expanding, 0x80 ≤ n := by decide +kernel
    exact absurd (l.authority_bounds hc).2 (Nat.not_lt.mpr (hlarge _ hexpands))

theorem visible_written {c : Char} (h : c ∈ l.written.toList) : 0x20 < c.toNat := by
  rw [written, String.toList_append, List.mem_append] at h
  exact h.elim (fun h => (l.authority_bounds h).1) fun h => (l.path_bounds h).1

theorem parts {letters : List Char} (hletters : Uri.IsScheme letters) (hvisible : ∀ c ∈ letters, 0x20 < c.toNat) :
    Uri.Parts (letters ++ ':' :: '/' :: '/' :: l.written.toList) letters l.authority.toList l.path.toList where
  counted := by
    rw [Uri.counted_eq_self, Uri.front, if_neg hletters.ne_nil, written, String.toList_append]
    · simp
    · intro c hc
      simp only [List.mem_append, List.mem_cons] at hc
      rcases hc with h | rfl | rfl | rfl | h
      · exact hvisible c h
      · decide
      · decide
      · decide
      · exact l.visible_written h
  scheme := .inr hletters
  authority c hc := by
    have hne : ∀ d, isHostChar d = false → d ≠ ':' → c ≠ d := fun d hd hcolon h =>
      l.not_mem_authority hd hcolon (h ▸ hc)
    simp [Uri.endsAuthority, hne '/' (by decide) (by decide), hne '?' (by decide) (by decide),
      hne '#' (by decide) (by decide)]
  tail c hc := by
    rcases l.path_chars with hpath | ⟨rest, hpath, _⟩
    · simp [hpath] at hc
    · obtain rfl : '/' = c := by simpa [hpath] using hc
      rfl

/-- Only the slashes of a scheme follow a colon. -/
theorem withScheme_written : withScheme l.written.toList = ['t', 'c', 'p', ':', '/', '/'] ++ l.written.toList := by
  have hcount : l.written.toList.count '/' ≤ 1 := by
    have hauthority : l.authority.toList.count '/' = 0 :=
      List.count_eq_zero.mpr (l.not_mem_authority (by decide) (by decide))
    have hpath : l.path.toList.count '/' ≤ 1 := by
      rcases l.path_chars with hpath | ⟨rest, hpath, hrest⟩
      · simp [hpath]
      · have hnone : rest.toList.count '/' = 0 :=
          List.count_eq_zero.mpr fun h => absurd (hrest '/' h) (by decide)
        simp [hpath, hnone]
    rw [written, String.toList_append, List.count_append, hauthority]
    omega
  refine if_neg fun hcontains => ?_
  have hslashes := (contains_iff.mp hcontains).sublist.count_le '/'
  exact absurd (Nat.le_trans hslashes hcount) (by decide)

end Location

/-! ## Schemes in any case -/

/-- The letters spell the name of a scheme. -/
def Spells (letters : String) (s : Scheme) : Prop :=
  letters.toList.map Char.toLower = s.name.toList

instance (letters : String) (s : Scheme) : Decidable (Spells letters s) :=
  inferInstanceAs (Decidable (_ = _))

theorem Spells.isAlpha {letters : String} {s : Scheme} (h : Spells letters s) {c : Char} (hc : c ∈ letters.toList) :
    c.isAlpha = true := by
  have hnames : ∀ s : Scheme, s.name.toList.all Char.isAlpha = true := by
    intro s
    cases s <;> decide
  refine isAlpha_of_toLower (List.all_eq_true.mp (hnames s) _ ?_)
  exact h ▸ List.mem_map_of_mem hc

theorem Spells.isScheme {letters : String} {s : Scheme} (h : Spells letters s) : Uri.IsScheme letters.toList := by
  have hne : letters.toList ≠ [] := by
    intro hempty
    rw [Spells, hempty, List.map_nil] at h
    cases s <;> exact absurd h (by decide)
  obtain ⟨c, rest, hletters⟩ := List.exists_cons_of_ne_nil hne
  refine ⟨?_, List.all_eq_true.mpr fun d hd => ?_⟩
  · rw [hletters]
    exact h.isAlpha (hletters ▸ List.mem_cons_self)
  · simp [Uri.isSchemeChar, isAlphanum_iff, h.isAlpha hd]

theorem Spells.visible {letters : String} {s : Scheme} (h : Spells letters s) :
    ∀ c ∈ letters.toList, 0x20 < c.toNat := by
  intro c hc
  have hchar : isUnreserved c = true := by
    simp [isUnreserved, isAlphanum_iff, h.isAlpha hc]
  exact (isUnreserved_bounds hchar).1

/-! ## Reading -/

theorem host_isEmpty_iff {u : Uri} {host port : List Char} (h : Uri.hostAndPort u.authority = (host, port)) :
    u.host.isEmpty = true ↔ host = [] := by
  rw [Uri.host, h]
  rcases cut_cases '%' host with ⟨_, hcut⟩ | ⟨name, zone, _, rfl, hcut⟩
  · rw [hcut]
    exact List.isEmpty_iff.trans lower_eq_nil_iff
  · simp [hcut]

theorem ofName?_eq_some_iff {name : String} {s : Scheme} : Scheme.ofName? name = some s ↔ s.name = name := by
  refine ⟨fun h => ?_, fun h => h ▸ Scheme.ofName?_name s⟩
  simpa using List.find?_some h

theorem ofName?_lower_iff {scheme : List Char} {s : Scheme} :
    Scheme.ofName? (String.ofList (scheme.map Char.toLower)) = some s ↔ Spells (String.ofList scheme) s := by
  rw [ofName?_eq_some_iff, Spells, String.toList_ofList, eq_comm, ← String.toList_inj, String.toList_ofList]

/-- The address of an identifier under a scheme, with the number of its port. -/
def addressOf (u : Uri) (s : Scheme) (number : Nat) : Address := {
  scheme := s
  host := String.ofList u.host
  port := if number = 0 then s.defaultPort else number
  path := if u.path.isEmpty then "/" else String.ofList u.path }

/-- First the scheme counts, then the host, and then the port. -/
theorem ofUri_cases {u : Uri} {host port : List Char} (h : Uri.hostAndPort u.authority = (host, port)) (text : String) :
    (Scheme.ofName? (String.ofList u.scheme) = none ∧ ∃ name, ofUri text u = .error (.unsupported name)) ∨
    ∃ s, Scheme.ofName? (String.ofList u.scheme) = some s ∧
      ((host = [] ∧ ofUri text u = .error (.noHost text)) ∨
      (host ≠ [] ∧ ¬ Uri.PortFits port ∧ ∃ e, ofUri text u = .error (.malformed e)) ∨
      (host ≠ [] ∧ Uri.PortFits port ∧ ofUri text u = .ok (addressOf u s (Nat.ofDigitChars 10 port 0)))) := by
  rw [ofUri]
  cases Scheme.ofName? (String.ofList u.scheme) with
  | none => exact .inl ⟨rfl, _, rfl⟩
  | some s =>
    refine .inr ⟨s, rfl, ?_⟩
    by_cases hhost : host = []
    · exact .inl ⟨hhost, if_pos ((host_isEmpty_iff h).mpr hhost)⟩
    · right
      have hnonempty : ¬ u.host.isEmpty = true := fun hempty => hhost ((host_isEmpty_iff h).mp hempty)
      dsimp only
      rw [if_neg hnonempty]
      rcases Uri.port_cases h with ⟨hfits, n, hn, hvalue⟩ | ⟨hfits, e, he⟩
      · right
        rw [hn]
        dsimp only
        rw [hvalue]
        exact ⟨hhost, hfits, rfl⟩
      · left
        rw [he]
        exact ⟨hhost, hfits, e, rfl⟩

theorem Location.portFits (l : Location) : Uri.PortFits l.digits := by
  refine ⟨fun c hc => l.isDigit_of_mem_digits hc, ?_, ?_⟩
  · rw [Location.digits]
    split
    next p hp =>
      have hrange := (l.port_range p hp).2
      have hlength : (Nat.toDigits 10 p).length ≤ 5 :=
        (Nat.length_toDigits_le_iff (by decide) (by decide)).mpr (by omega)
      exact Nat.le_trans hlength (by decide)
    next => decide
  · rw [Location.digits]
    split
    next p hp =>
      rw [Nat.ofDigitChars_ten_toDigits]
      exact (l.port_range p hp).2
    next => decide

theorem Location.host_lower (l : Location) : lower l.host.toList = l.host.toList := by
  refine lower_of_lt fun c hc => ⟨?_, isUpper_of_isHostChar (l.host_chars c hc)⟩
  have hbounds := isUnreserved_bounds (isUnreserved_of_isHostChar (l.host_chars c hc))
  omega

theorem Location.digits_value (l : Location) (s : Scheme) :
    (if Nat.ofDigitChars 10 l.digits 0 = 0 then s.defaultPort else Nat.ofDigitChars 10 l.digits 0)
      = l.port.getD s.defaultPort := by
  rw [Location.digits]
  split
  next p hp =>
    have hpositive : p ≠ 0 := Nat.pos_iff_ne_zero.mp (l.port_range p hp).1
    rw [Nat.ofDigitChars_ten_toDigits, if_neg hpositive, hp, Option.getD_some]
  next hnone => rw [hnone, Nat.ofDigitChars_nil, if_pos rfl, Option.getD_none]

theorem Location.host_eq (l : Location) {u : Uri} {port : List Char}
    (h : Uri.hostAndPort u.authority = (l.host.toList, port)) : u.host = l.host.toList := by
  rw [Uri.host, h]
  dsimp only
  rw [cut_of_not_mem (l.not_mem_host (by decide))]
  exact l.host_lower

/-- What is written under a scheme is read as the address of the location. -/
theorem parse_of_withScheme (l : Location) {s : Scheme} {letters text : String} (h : Spells letters s)
    (htext : withScheme text.toList = letters.toList ++ ':' :: '/' :: '/' :: l.written.toList) :
    parse text = .ok (l.address s) := by
  obtain ⟨u, hsplit, hscheme, hport, hpath⟩ := (l.parts h.isScheme h.visible).split_of_readable l.readable
  have hname : Scheme.ofName? (String.ofList u.scheme) = some s := by
    rw [hscheme, h, String.ofList_toList, Scheme.ofName?_name]
  have hhost : l.host.toList ≠ [] := fun hempty => l.host_ne_empty (String.toList_eq_nil_iff.mp hempty)
  have hplain : l.path.toList.takeWhile (fun c => c ≠ '?' && c ≠ '#') = l.path.toList := by
    refine List.takeWhile_eq_self_iff.mpr fun c hc => ?_
    simp [(l.path_bounds hc).2]
  rw [parse, htext, hsplit]
  dsimp only
  rcases ofUri_cases hport text with ⟨hnone, _⟩ | ⟨s', hname', hempty | ⟨_, hfits, _⟩ | ⟨_, _, hok⟩⟩
  · cases hname.symm.trans hnone
  · exact absurd hempty.1 hhost
  · exact absurd l.portFits hfits
  · cases hname.symm.trans hname'
    rw [hok, addressOf, l.host_eq hport, l.digits_value, hpath, hplain, Location.address]
    simp only [String.ofList_toList, List.isEmpty_iff, String.toList_eq_nil_iff]

theorem withScheme_of_spells (l : Location) (letters : String) :
    withScheme (letters ++ "://" ++ l.written).toList = letters.toList ++ ':' :: '/' :: '/' :: l.written.toList := by
  have hmark : contains [':', '/', '/'] (letters ++ "://" ++ l.written).toList = true :=
    contains_iff.mpr ⟨letters.toList, l.written.toList, by simp⟩
  rw [withScheme, if_pos hmark]
  simp

/-- **Addresses are read as they are written.**  A scheme in any case, a host, a port or none and a path or none, all in
characters that stand for themselves, are read as what they say; the scheme decides the port that is not written, and
how the connection is made.  Without the scheme the same is read as with `tcp` before it. -/
theorem written_parsed (l : Location) {s : Scheme} {letters : String} (h : Spells letters s) :
    parse (letters ++ "://" ++ l.written) = .ok (l.address s) ∧
    ((l.address s).isEncrypted = true ↔ s ∈ [.ssl, .tls, .mqtts, .wss]) ∧
    ((l.address s).transport = .webSockets ↔ s ∈ [.ws, .wss]) ∧
    parse l.written = parse ("tcp://" ++ l.written) := by
  have htcp : Spells "tcp" .tcp := by decide
  refine ⟨parse_of_withScheme l h (withScheme_of_spells l letters), ?_, ?_, ?_⟩
  · cases s <;> simp [Location.address, isEncrypted, Scheme.isEncrypted]
  · cases s <;> simp [Location.address, transport, Scheme.isWebSocket]
  · have hplain : parse l.written = .ok (l.address .tcp) := parse_of_withScheme l htcp l.withScheme_written
    have hscheme : parse ("tcp" ++ "://" ++ l.written) = .ok (l.address .tcp) :=
      parse_of_withScheme l htcp (withScheme_of_spells l "tcp")
    exact hplain.trans hscheme.symm

/-- A broker behind web sockets, under a scheme in mixed case. -/
theorem mixed_case_parsed :
    Spells "WsS" .wss ∧
      parse "WsS://broker.local:9001/mqtt" = .ok ⟨.wss, "broker.local", 9001, "/mqtt"⟩ := by
  have hspells : Spells "WsS" .wss := by decide
  have hhost : ∀ c ∈ "broker.local".toList, isHostChar c = true := List.all_eq_true.mp (by decide)
  have hport : ∀ p ∈ some 9001, 1 ≤ p ∧ p ≤ 65535 := by decide
  have hpath : ∀ c ∈ "mqtt".toList, isUnreserved c = true := List.all_eq_true.mp (by decide)
  exact ⟨hspells, (written_parsed ⟨"broker.local", some 9001, "/mqtt", by decide, hhost, hport,
    .inr ⟨"mqtt", by decide, hpath⟩⟩ hspells).1⟩

/-! ## Texts that are no addresses -/

/-- The identifier in a text cannot be read, or it would be connected to at a port that cannot be used. -/
def Malformed (text : String) : Prop :=
  ∃ scheme authority tail, Uri.Parts (withScheme text.toList) scheme authority tail ∧
    ((¬ ∃ host port, Uri.Readable authority host port) ∨
    ∃ host port, Uri.Readable authority host port ∧ host ≠ [] ∧ (∃ s, Spells (String.ofList scheme) s) ∧
      ¬ Uri.PortFits port)

theorem parse_of_malformed {text : String} (h : Malformed text) : ∃ e, parse text = .error (.malformed e) := by
  obtain ⟨scheme, authority, tail, hparts, hbad⟩ := h
  rw [parse]
  by_cases hreadable : ∃ host port, Uri.Readable authority host port
  · obtain ⟨host, port, hr, hhost, ⟨s, hspells⟩, hfits⟩ := hbad.resolve_left (not_not_intro hreadable)
    obtain ⟨u, hsplit, hscheme, hport, _⟩ := hparts.split_of_readable hr
    have hname : Scheme.ofName? (String.ofList u.scheme) = some s := by
      rw [hscheme, ofName?_lower_iff]
      exact hspells
    rw [hsplit]
    dsimp only
    rcases ofUri_cases hport text with ⟨hnone, _⟩ | ⟨s', _, hempty | ⟨_, _, he⟩ | ⟨_, hfits', _⟩⟩
    · cases hname.symm.trans hnone
    · exact absurd hempty.1 hhost
    · exact he
    · exact absurd hfits' hfits
  · obtain ⟨e, he⟩ := hparts.split_of_not_readable hreadable
    rw [he]
    exact ⟨e, rfl⟩

theorem defaultPort_bounds (s : Scheme) : 1 ≤ s.defaultPort ∧ s.defaultPort ≤ 65535 := by
  cases s <;> decide

/-- An address with a host and a port that can be connected to. -/
structure Connectable (a : Address) : Prop where
  scheme : a.scheme ∈ Scheme.all
  host : a.host ≠ ""
  port : 1 ≤ a.port ∧ a.port ≤ 65535

theorem connectable_addressOf {u : Uri} {host port : List Char} (h : Uri.hostAndPort u.authority = (host, port))
    (hhost : host ≠ []) (hport : Uri.PortFits port) (s : Scheme) :
    Connectable (addressOf u s (Nat.ofDigitChars 10 port 0)) where
  scheme := by cases s <;> simp [addressOf, Scheme.all]
  host := by
    intro hempty
    rw [addressOf, String.ofList_eq_empty_iff] at hempty
    exact hhost ((host_isEmpty_iff h).mp (List.isEmpty_iff.mpr hempty))
  port := by
    have hbound := hport.2.2
    rw [addressOf]
    dsimp only
    split_ifs with hzero
    · exact defaultPort_bounds s
    · exact ⟨Nat.pos_of_ne_zero hzero, hbound⟩

theorem parse_of_not_malformed {text : String} (h : ¬ Malformed text) :
    (∃ a, parse text = .ok a ∧ Connectable a) ∨ ∃ e, parse text = .error e ∧ e.isExplained = true := by
  rw [parse]
  rcases Uri.exists_parts_or (withScheme text.toList) with ⟨scheme, authority, tail, hparts⟩ | ⟨u, hsplit, hauthority⟩
  · have hreadable : ∃ host port, Uri.Readable authority host port := by
      by_contra hnot
      exact h ⟨scheme, authority, tail, hparts, .inl hnot⟩
    obtain ⟨host, port, hr⟩ := hreadable
    obtain ⟨u, hsplit, hscheme, hport, _⟩ := hparts.split_of_readable hr
    rw [hsplit]
    dsimp only
    rcases ofUri_cases hport text with ⟨_, name, he⟩ | ⟨s, hname, ⟨_, he⟩ | ⟨hhost, hfits, _⟩ | ⟨hhost, hfits, hok⟩⟩
    · exact .inr ⟨_, he, rfl⟩
    · exact .inr ⟨_, he, rfl⟩
    · rw [hscheme, ofName?_lower_iff] at hname
      exact absurd ⟨scheme, authority, tail, hparts, .inr ⟨host, port, hr, hhost, ⟨s, hname⟩, hfits⟩⟩ h
    · exact .inl ⟨_, hok, connectable_addressOf hport hhost hfits s⟩
  · have hport : Uri.hostAndPort u.authority = ([], []) := by
      rw [hauthority]
      rfl
    rw [hsplit]
    dsimp only
    rcases ofUri_cases hport text with ⟨_, name, he⟩ | ⟨s, _, ⟨_, he⟩ | ⟨hhost, _⟩ | ⟨hhost, _⟩⟩
    · exact .inr ⟨_, he, rfl⟩
    · exact .inr ⟨_, he, rfl⟩
    · exact absurd rfl hhost
    · exact absurd rfl hhost

theorem not_malformed_empty : ¬ Malformed "" := by
  intro h
  obtain ⟨e, he⟩ := parse_of_malformed h
  have hempty : parse "" = .error (.noHost "") := by decide +kernel
  cases he.symm.trans hempty

section Connections

variable (η : Type) (c : Credentials) {text : String}

theorem create_eq (h : text ≠ "") :
    (Connection.create { c with broker := some text } : Except ConnectionError (Connection η)) =
      match parse text with
      | .error e => .error (.address e)
      | .ok a => .ok { address := a, calls := Connection.setup a { c with broker := some text } } := by
  have hset : Connection.isSet (some text) = true := by
    simpa [Connection.isSet] using h
  rw [Connection.create, hset]
  rfl

theorem create_of_malformed (h : Malformed text) :
    ∃ e, (Connection.create { c with broker := some text } : Except _ (Connection η)) = .error e ∧
      e.isExplained = false := by
  obtain ⟨e, he⟩ := parse_of_malformed h
  have hne : text ≠ "" := by
    rintro rfl
    exact not_malformed_empty h
  rw [create_eq η c hne, he]
  exact ⟨_, rfl, rfl⟩

theorem create_of_not_malformed (h : ¬ Malformed text) :
    (∃ k : Connection η, Connection.create { c with broker := some text } = .ok k ∧ Connectable k.address) ∨
      ∃ e, (Connection.create { c with broker := some text } : Except _ (Connection η)) = .error e ∧
        e.isExplained = true := by
  by_cases hempty : text = ""
  · subst hempty
    exact .inr ⟨.missing, rfl, rfl⟩
  · rw [create_eq η c hempty]
    rcases parse_of_not_malformed h with ⟨a, ha, hconnectable⟩ | ⟨e, he, hexplained⟩
    · rw [ha]
      exact .inl ⟨_, rfl, hconnectable⟩
    · rw [he]
      exact .inr ⟨_, rfl, hexplained⟩

end Connections

/-- **Addresses that are refused.**  A text is read as an address that can be connected to, or the user is told what is
wrong with it, exactly unless the identifier in it is malformed; the same holds of setting up the connection. -/
theorem address_explained_iff (η : Type) (c : Credentials) (text : String) :
    (((∃ a, parse text = .ok a ∧ Connectable a) ∨ ∃ e, parse text = .error e ∧ e.isExplained = true) ↔
      ¬ Malformed text) ∧
    (((∃ k : Connection η, Connection.create { c with broker := some text } = .ok k ∧ Connectable k.address) ∨
        ∃ e, (Connection.create { c with broker := some text } : Except _ (Connection η)) = .error e ∧
          e.isExplained = true) ↔
      ¬ Malformed text) := by
  constructor
  · refine ⟨fun h hmalformed => ?_, parse_of_not_malformed⟩
    obtain ⟨e, he⟩ := parse_of_malformed hmalformed
    rcases h with ⟨a, ha, _⟩ | ⟨e', he', hexplained⟩
    · cases ha.symm.trans he
    · cases he'.symm.trans he
      cases hexplained
  · refine ⟨fun h hmalformed => ?_, create_of_not_malformed η c⟩
    obtain ⟨e, he, hnot⟩ := create_of_malformed η c hmalformed
    rcases h with ⟨k, hk, _⟩ | ⟨e', he', hexplained⟩
    · cases hk.symm.trans he
    · cases he'.symm.trans he
      cases hexplained.symm.trans hnot

/-- A port above the range is told to nobody. -/
theorem large_port_unexplained :
    ¬ ((∃ a, parse "tcp://h:70000" = .ok a ∧ Connectable a) ∨
      ∃ e, parse "tcp://h:70000" = .error e ∧ e.isExplained = true) := by
  have h : parse "tcp://h:70000" = .error (.malformed .portRange) := by decide +kernel
  rw [h]
  rintro (⟨a, ha, _⟩ | ⟨e, he, hexplained⟩)
  · cases ha
  · cases he
    cases hexplained

end Address

end TopicShell.Broker
