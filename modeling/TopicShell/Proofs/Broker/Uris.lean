import TopicShell.Broker.Uri
import Mathlib.Data.List.TakeWhile

/-!
# Which identifiers can be read

An identifier is written as `scheme://authority`, with or without the scheme, and goes on at the first of `/?#`
(`Parts`).  The authority has user data up to its last `@`, and then a host and a port (`Reads`); where it has a
bracket, the host must be an address.  `Readable` says all of this without saying how it is found.

* `Parts.split_of_readable`, `Parts.split_of_not_readable`: splitting succeeds exactly if the authority can be read;
* `port_cases`: the port is a number exactly if it is written in ASCII digits, not too many, and below 65536.
-/

namespace TopicShell.Text

theorem cut_cases (c : Char) (cs : List Char) :
    (c ∉ cs ∧ cut c cs = (cs, none)) ∨
    ∃ front rest, c ∉ front ∧ cs = front ++ c :: rest ∧ cut c cs = (front, some rest) := by
  by_cases h : c ∈ cs
  · obtain ⟨front, rest, rfl, hfront⟩ := List.eq_append_cons_of_mem h
    exact .inr ⟨front, rest, hfront, rfl, cut_append hfront rest⟩
  · exact .inl ⟨h, cut_of_not_mem h⟩

theorem afterLast_append {c : Char} {back : List Char} (h : c ∉ back) (front : List Char) :
    afterLast c (front ++ c :: back) = back := by
  have hback : ∀ x ∈ back.reverse, decide (x ≠ c) = true := fun x hx =>
    decide_eq_true fun hc => h (hc ▸ List.mem_reverse.mp hx)
  rw [afterLast, List.reverse_append, List.reverse_cons, List.append_assoc, List.takeWhile_append_of_pos hback]
  simp

theorem afterLast_of_not_mem {c : Char} {cs : List Char} (h : c ∉ cs) : afterLast c cs = cs := by
  have hcs : ∀ x ∈ cs.reverse, decide (x ≠ c) = true := fun x hx =>
    decide_eq_true fun hc => h (hc ▸ List.mem_reverse.mp hx)
  rw [afterLast, List.takeWhile_eq_self_iff.mpr hcs, List.reverse_reverse]

end TopicShell.Text

namespace TopicShell.Broker.Uri

open TopicShell.Text

/-! ## Host and port -/

/-- What stands behind the user data of an authority. -/
def IsInfo (authority info : List Char) : Prop :=
  '@' ∉ info ∧ (authority = info ∨ ∃ user, authority = user ++ '@' :: info)

theorem IsInfo.afterLast_eq {authority info : List Char} (h : IsInfo authority info) :
    afterLast '@' authority = info := by
  obtain ⟨hinfo, rfl | ⟨user, rfl⟩⟩ := h
  · exact afterLast_of_not_mem hinfo
  · exact afterLast_append hinfo user

theorem isInfo_afterLast (authority : List Char) : IsInfo authority (afterLast '@' authority) := by
  by_cases h : '@' ∈ authority
  · obtain ⟨back, user, heq, hback⟩ := List.eq_append_cons_of_mem (List.mem_reverse.mpr h)
    have hauthority : authority = user.reverse ++ '@' :: back.reverse := by
      simpa using congrArg List.reverse heq
    have hinfo : '@' ∉ back.reverse := fun h => hback (List.mem_reverse.mp h)
    rw [hauthority, afterLast_append hinfo]
    exact ⟨hinfo, .inr ⟨_, rfl⟩⟩
  · rw [afterLast_of_not_mem h]
    exact ⟨h, .inl rfl⟩

theorem IsInfo.subset {authority info : List Char} (h : IsInfo authority info) : info ⊆ authority := by
  obtain ⟨_, rfl | ⟨user, rfl⟩⟩ := h
  · exact List.Subset.refl _
  · exact List.subset_append_of_subset_right _ (List.subset_cons_self ..)

/-- A host and a port as they are written: the host may stand in brackets, and the closing one may be missing. -/
inductive Reads : List Char → List Char → List Char → Prop
  | bare {host : List Char} : '[' ∉ host → ':' ∉ host → Reads host host []
  | barePort {host port : List Char} : '[' ∉ host ++ ':' :: port → ':' ∉ host → Reads (host ++ ':' :: port) host port
  | opened {host : List Char} : ']' ∉ host → Reads ('[' :: host) host []
  | closed {host : List Char} : ']' ∉ host → Reads ('[' :: (host ++ [']'])) host []
  | closedPort {host port : List Char} : ']' ∉ host → Reads ('[' :: (host ++ ']' :: ':' :: port)) host port

theorem Reads.hostAndPort_eq {authority host port : List Char} (h : Reads (afterLast '@' authority) host port) :
    hostAndPort authority = (host, port) := by
  rw [hostAndPort]
  generalize afterLast '@' authority = info at h
  cases h with
  | bare hopen hcolon => simp only [cut_of_not_mem hopen, cut_of_not_mem hcolon, Option.getD_none]
  | barePort hopen hcolon => simp only [cut_of_not_mem hopen, cut_append hcolon, Option.getD_some]
  | opened hclose => simp [cut, cut_of_not_mem hclose]
  | closed hclose => simp [cut, cut_append hclose]
  | closedPort hclose => simp [cut, cut_append hclose]

/-- Once host and port stand as they should, the brackets have to match, and the host between them is an address. -/
theorem Reads.checkBrackets_eq {authority host port : List Char} (h : Reads (afterLast '@' authority) host port) :
    checkBrackets authority =
      if '[' ∈ authority ↔ ']' ∈ authority then if '[' ∈ authority then HostLiteral.check host else .ok ()
      else .error .brackets := by
  have hcheck : '[' ∈ authority → ']' ∈ authority → checkBrackets authority = HostLiteral.check host := by
    intro hopened hclosed
    simp only [checkBrackets, List.contains_iff_mem.mpr hopened, List.contains_iff_mem.mpr hclosed, bne_self_eq_false,
      Bool.not_true, Bool.false_eq_true, if_false]
    generalize afterLast '@' authority = info at h
    cases h with
    | bare hopen hcolon => simp only [cut_of_not_mem hopen, cut_of_not_mem hcolon]
    | barePort hopen hcolon => simp only [cut_of_not_mem hopen, cut_append hcolon]
    | opened hclose => simp [cut, cut_of_not_mem hclose]
    | closed hclose => simp [cut, cut_append hclose]
    | closedPort hclose => simp [cut, cut_append hclose]
  by_cases hopened : '[' ∈ authority <;> by_cases hclosed : ']' ∈ authority
  · simp [hopened, hclosed, hcheck]
  · simp [hopened, hclosed, checkBrackets]
  · simp [hopened, hclosed, checkBrackets]
  · simp [hopened, hclosed, checkBrackets]

/-- Host and port can be told apart, or there is something before or behind the brackets. -/
theorem reads_or_brackets (authority : List Char) :
    (∃ host port, Reads (afterLast '@' authority) host port) ∨ checkBrackets authority = .error .brackets := by
  have hsubset := (isInfo_afterLast authority).subset
  rcases cut_cases '[' (afterLast '@' authority) with ⟨hopen, _⟩ | ⟨before, bracketed, hbefore, hinfo, hcut⟩
  · rcases cut_cases ':' (afterLast '@' authority) with ⟨hcolon, _⟩ | ⟨host, port, hcolon, hinfo, _⟩
    · exact .inl ⟨_, _, .bare hopen hcolon⟩
    · exact .inl ⟨host, port, hinfo ▸ .barePort (hinfo ▸ hopen) hcolon⟩
  · have hopened : '[' ∈ authority := hsubset (hinfo ▸ List.mem_append_right _ List.mem_cons_self)
    by_cases hclosed : ']' ∈ authority
    · by_cases hempty : before = []
      · subst hempty
        rw [List.nil_append] at hinfo
        rcases cut_cases ']' bracketed with ⟨hclose, _⟩ | ⟨host, rest, hclose, rfl, hrest⟩
        · exact .inl ⟨bracketed, [], hinfo ▸ .opened hclose⟩
        · cases rest with
          | nil => exact .inl ⟨host, [], hinfo ▸ .closed hclose⟩
          | cons c port =>
            by_cases hc : c = ':'
            · subst hc
              exact .inl ⟨host, port, hinfo ▸ .closedPort hclose⟩
            · right
              simp [checkBrackets, hopened, hclosed, hcut, hrest, hc]
      · right
        simp [checkBrackets, hopened, hclosed, hcut, hempty]
    · right
      simp [checkBrackets, hopened, hclosed]

/-! ## Authorities -/

/-- An authority that can be read, with the host and the port in it. -/
structure Readable (authority host port : List Char) : Prop where
  reads : ∃ info, IsInfo authority info ∧ Reads info host port
  brackets : '[' ∈ authority ↔ ']' ∈ authority
  literal : '[' ∈ authority → HostLiteral.check host = .ok ()
  /-- No character that stands for one of `/?#@:`. -/
  plain : ∀ c ∈ authority, c.toNat ∉ expanding

theorem Readable.reads_afterLast {authority host port : List Char} (h : Readable authority host port) :
    Reads (afterLast '@' authority) host port := by
  obtain ⟨info, hinfo, hreads⟩ := h.reads
  rwa [hinfo.afterLast_eq]

theorem Readable.hostAndPort_eq {authority host port : List Char} (h : Readable authority host port) :
    hostAndPort authority = (host, port) :=
  h.reads_afterLast.hostAndPort_eq

theorem Readable.checkBrackets_eq {authority host port : List Char} (h : Readable authority host port) :
    checkBrackets authority = .ok () := by
  rw [h.reads_afterLast.checkBrackets_eq, if_pos h.brackets]
  split
  next hopened => exact h.literal hopened
  next => rfl

theorem exists_readable {authority : List Char} (hbrackets : checkBrackets authority = .ok ())
    (hplain : ∀ c ∈ authority, c.toNat ∉ expanding) : ∃ host port, Readable authority host port := by
  rcases reads_or_brackets authority with ⟨host, port, hreads⟩ | herror
  · rw [hreads.checkBrackets_eq] at hbrackets
    by_cases hmatch : '[' ∈ authority ↔ ']' ∈ authority
    · rw [if_pos hmatch] at hbrackets
      refine ⟨host, port, ⟨⟨_, isInfo_afterLast authority, hreads⟩, hmatch, fun hopened => ?_, hplain⟩⟩
      rwa [if_pos hopened] at hbrackets
    · rw [if_neg hmatch] at hbrackets
      cases hbrackets
  · rw [herror] at hbrackets
    cases hbrackets

/-! ## Scheme and authority -/

/-- A scheme is a letter, and letters, digits and `+-.` behind it. -/
def IsScheme (scheme : List Char) : Prop :=
  scheme.head?.any Char.isAlpha = true ∧ scheme.all isSchemeChar = true

theorem IsScheme.colon_not_mem {scheme : List Char} (h : IsScheme scheme) : ':' ∉ scheme :=
  fun hmem => absurd (List.all_eq_true.mp h.2 ':' hmem) (by decide)

theorem IsScheme.ne_nil {scheme : List Char} (h : IsScheme scheme) : scheme ≠ [] := by
  rintro rfl
  cases h.1

theorem cutScheme_of_isScheme {scheme : List Char} (h : IsScheme scheme) (rest : List Char) :
    cutScheme (scheme ++ ':' :: rest) = (scheme.map Char.toLower, rest) := by
  rw [cutScheme, cut_append h.colon_not_mem]
  simp only [h.1, h.2, Bool.and_self, if_true]

/-- The characters of an identifier that count. -/
def counted (text : List Char) : List Char :=
  (text.dropWhile (·.toNat ≤ 0x20)).filter fun c => c ≠ '\t' && c ≠ '\r' && c ≠ '\n'

theorem counted_eq_self {text : List Char} (h : ∀ c ∈ text, 0x20 < c.toNat) : counted text = text := by
  have hdrop : text.dropWhile (·.toNat ≤ 0x20) = text := by
    cases text with
    | nil => rfl
    | cons c text =>
      have hc := h c List.mem_cons_self
      rw [List.dropWhile_cons_of_neg (by simpa using hc)]
  rw [counted, hdrop]
  refine List.filter_eq_self.mpr fun c hc => ?_
  have hspecial : c ≠ '\t' ∧ c ≠ '\r' ∧ c ≠ '\n' := by
    refine ⟨?_, ?_, ?_⟩ <;> rintro rfl <;> exact absurd (h _ hc) (by decide)
  simp [hspecial]

/-- A scheme in front of what follows it. -/
def front (scheme : List Char) : List Char :=
  if scheme = [] then [] else scheme ++ [':']

theorem cutScheme_cases (cs : List Char) :
    ∃ scheme rest, (scheme = [] ∨ IsScheme scheme) ∧ cs = front scheme ++ rest ∧
      cutScheme cs = (scheme.map Char.toLower, rest) := by
  rcases cut_cases ':' cs with ⟨_, hcut⟩ | ⟨scheme, rest, _, hcs, hcut⟩
  · exact ⟨[], cs, .inl rfl, rfl, by rw [cutScheme, hcut]; rfl⟩
  · by_cases h : IsScheme scheme
    · refine ⟨scheme, rest, .inr h, ?_, hcs ▸ cutScheme_of_isScheme h rest⟩
      rw [hcs, front, if_neg h.ne_nil, List.append_assoc, List.singleton_append]
    · refine ⟨[], cs, .inl rfl, rfl, ?_⟩
      rw [cutScheme, hcut]
      exact if_neg fun hscheme => h (Bool.and_eq_true_iff.mp hscheme)

/-- The parts of an identifier: a scheme or none, the authority, and what follows from the first of `/?#` on. -/
structure Parts (text scheme authority tail : List Char) : Prop where
  counted : counted text = front scheme ++ '/' :: '/' :: (authority ++ tail)
  scheme : scheme = [] ∨ IsScheme scheme
  authority : ∀ c ∈ authority, endsAuthority c = false
  tail : ∀ c ∈ tail.head?, endsAuthority c = true

/-- What starts with a slash starts with no scheme. -/
theorem cutScheme_front {scheme : List Char} (h : scheme = [] ∨ IsScheme scheme) (rest : List Char) :
    cutScheme (front scheme ++ '/' :: rest) = (scheme.map Char.toLower, '/' :: rest) := by
  rcases h with rfl | h
  · obtain ⟨scheme, rest', hscheme, heq, hcut⟩ := cutScheme_cases ('/' :: rest)
    have hempty : scheme = [] := by
      by_contra hne
      have hslash : '/' ∈ scheme := by
        rw [front, if_neg hne] at heq
        cases scheme with
        | nil => exact absurd rfl hne
        | cons c scheme => exact (List.cons.inj heq).1 ▸ List.mem_cons_self
      exact absurd (List.all_eq_true.mp (hscheme.resolve_left hne).2 '/' hslash) (by decide)
    subst hempty
    exact hcut.trans (by rw [heq]; rfl)
  · rw [front, if_neg h.ne_nil, List.append_assoc, List.singleton_append, cutScheme_of_isScheme h]

/-- Splitting finds the parts, and then looks at the authority. -/
theorem Parts.split_eq {text scheme authority tail : List Char} (h : Parts text scheme authority tail) :
    split text = (checkBrackets authority).bind fun _ =>
      if authority.any fun c => expanding.contains c.toNat then .error (.expands (String.ofList authority))
      else .ok ⟨scheme.map Char.toLower, authority, tail.takeWhile fun c => c ≠ '?' && c ≠ '#'⟩ := by
  have hauthority : ∀ c ∈ authority, (!endsAuthority c) = true := fun c hc => by rw [h.authority c hc]; rfl
  have htail : tail.takeWhile (!endsAuthority ·) = [] ∧ tail.dropWhile (!endsAuthority ·) = tail := by
    cases tail with
    | nil => exact ⟨rfl, rfl⟩
    | cons c tail => simp [h.tail c rfl]
  rw [split, ← Uri.counted, h.counted, cutScheme_front h.scheme]
  simp only [List.takeWhile_append_of_pos hauthority, List.dropWhile_append_of_pos hauthority, htail, List.append_nil]
  cases checkBrackets authority <;> rfl

theorem exists_parts_or (text : List Char) :
    (∃ scheme authority tail, Parts text scheme authority tail) ∨ ∃ u, split text = .ok u ∧ u.authority = [] := by
  obtain ⟨scheme, rest, hscheme, hcounted, hcut⟩ := cutScheme_cases (counted text)
  by_cases hslashes : ∃ more, rest = '/' :: '/' :: more
  · obtain ⟨more, rfl⟩ := hslashes
    refine .inl ⟨scheme, more.takeWhile (!endsAuthority ·), more.dropWhile (!endsAuthority ·), ?_, hscheme, ?_, ?_⟩
    · rw [hcounted, List.takeWhile_append_dropWhile]
    · intro c hc
      simpa using List.all_eq_true.mp List.all_takeWhile c hc
    · intro c hc
      have hends := List.head?_dropWhile_not (!endsAuthority ·) more
      rw [Option.mem_def.mp hc] at hends
      simpa using hends
  · right
    rw [split, ← counted, hcut]
    dsimp only
    split
    next more => exact absurd ⟨more, rfl⟩ hslashes
    next => exact ⟨_, rfl, rfl⟩

theorem Parts.split_of_readable {text scheme authority tail host port : List Char}
    (h : Parts text scheme authority tail) (hr : Readable authority host port) :
    ∃ u, split text = .ok u ∧ u.scheme = scheme.map Char.toLower ∧ hostAndPort u.authority = (host, port) ∧
      u.path = tail.takeWhile fun c => c ≠ '?' && c ≠ '#' := by
  have hplain : ¬ (authority.any fun c => expanding.contains c.toNat) = true := by
    simpa using hr.plain
  refine ⟨⟨scheme.map Char.toLower, authority, _⟩, ?_, rfl, hr.hostAndPort_eq, rfl⟩
  rw [h.split_eq, hr.checkBrackets_eq]
  exact if_neg hplain

theorem Parts.split_of_not_readable {text scheme authority tail : List Char}
    (h : Parts text scheme authority tail) (hr : ¬ ∃ host port, Readable authority host port) :
    ∃ e, split text = .error e := by
  rw [h.split_eq]
  cases hbrackets : checkBrackets authority with
  | error e => exact ⟨e, rfl⟩
  | ok _ =>
    have hexpands : (authority.any fun c => expanding.contains c.toNat) = true := by
      by_contra hplain
      refine hr (exists_readable hbrackets ?_)
      simpa using hplain
    exact ⟨_, if_pos hexpands⟩

/-! ## Ports -/

theorem value_asciiDigits {digits : List Char} (h : ∀ c ∈ digits, c.isDigit = true) :
    Integer.value (digits.filterMap asciiDigit?) = Nat.ofDigitChars 10 digits 0 := by
  have hdigits : digits.filterMap asciiDigit? = digits.map fun c => c.toNat - '0'.toNat := by
    induction digits with
    | nil => rfl
    | cons c digits ih =>
      obtain ⟨hc, hrest⟩ := List.forall_mem_cons.mp h
      have hdigit : asciiDigit? c = some (c.toNat - '0'.toNat) := if_pos hc
      rw [List.filterMap_cons_some hdigit, List.map_cons, ih hrest]
  rw [Integer.value, Nat.ofDigitChars_eq_foldl, hdigits, List.foldl_map]

/-- A port that can be used: ASCII digits, not too many of them, and a number that is not too large. -/
def PortFits (port : List Char) : Prop :=
  (∀ c ∈ port, c.isDigit = true) ∧ port.length ≤ Integer.digitLimit ∧ Nat.ofDigitChars 10 port 0 ≤ 65535

/-- The port is read exactly if it can be used; none is written as zero would be. -/
theorem port_cases {u : Uri} {host port : List Char} (h : hostAndPort u.authority = (host, port)) :
    (PortFits port ∧ ∃ n, u.port = .ok n ∧ n.getD 0 = Nat.ofDigitChars 10 port 0) ∨
    (¬ PortFits port ∧ ∃ e, u.port = .error e) := by
  rw [Uri.port, h]
  by_cases hempty : port = []
  · subst hempty
    exact .inl ⟨⟨fun _ h => absurd h List.not_mem_nil, Nat.zero_le _, Nat.zero_le _⟩, none, rfl, rfl⟩
  · simp only [List.isEmpty_eq_false_iff.mpr hempty, Bool.false_eq_true, if_false]
    by_cases hdigits : ∀ c ∈ port, c.isDigit = true
    · rw [List.all_eq_true.mpr hdigits, value_asciiDigits hdigits]
      simp only [Bool.not_true, Bool.false_eq_true, if_false]
      by_cases hlong : Integer.digitLimit < port.length
      · rw [if_pos hlong]
        exact .inr ⟨fun hfits => absurd hfits.2.1 (Nat.not_le.mpr hlong), _, rfl⟩
      · rw [if_neg hlong]
        by_cases hlarge : Nat.ofDigitChars 10 port 0 ≤ 65535
        · rw [if_pos hlarge]
          exact .inl ⟨⟨hdigits, Nat.not_lt.mp hlong, hlarge⟩, _, rfl, rfl⟩
        · rw [if_neg hlarge]
          exact .inr ⟨fun hfits => hlarge hfits.2.2, _, rfl⟩
    · have hall : port.all Char.isDigit = false := by
        simpa using hdigits
      rw [hall]
      exact .inr ⟨fun hfits => hdigits hfits.1, _, rfl⟩

end TopicShell.Broker.Uri
