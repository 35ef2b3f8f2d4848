import TopicShell.Command
import TopicShell.Proofs.Text.Numerals
import Mathlib.Logic.ExistsUnique
import Mathlib.Tactic.SplitIfs

/-!
# The grammar of arguments

The arguments of `pub` and `sub` are a row of items in any order: `-r` (for `pub` only), `-q` with a value, and
words.  A value may be anything, `-q` and `-r` too, so a list is read from the left; `Splits` says what a row is
without saying how it is found.

* `eq_of_splits`, `splits_of`: each list is one row and no other;
* `scanArguments_of_splits`: what the scan of a list finds depends on the words of its row, the values in their order,
  and whether an `-r` occurs, but not on where the flags stand.

All about `pub` and `sub` follows from these, and is put together in `arguments_follow_grammar`.
-/

namespace TopicShell

namespace Arguments

/-- A part of an argument list. -/
inductive Item where
  /-- The flag `-r`. -/
  | retain
  /-- The flag `-q` with its value. -/
  | level (value : String)
  | word (text : String)
  deriving DecidableEq

namespace Item

/-- The arguments that an item is written with. -/
def written : Item → List String
  | retain => ["-r"]
  | level value => ["-q", value]
  | word text => [text]

/-- A word is no flag; `flag` tells whether `-r` is one, and there is an item for it only then. -/
def Fits (flag : Bool) : Item → Prop
  | retain => flag = true
  | level _ => True
  | word text => text ≠ "-q" ∧ (flag = true → text ≠ "-r")

theorem Fits.not_flag {flag : Bool} {text : String} (h : (word text).Fits flag) :
    ¬ (flag && decide (text = "-r")) = true := by
  simpa using h.2

def value? : Item → Option String
  | level value => some value
  | retain | word _ => none

def word? : Item → Option String
  | word text => some text
  | retain | level _ => none

end Item

/-- Items, and whether a `-q` without a value stands behind them. -/
structure Row where
  items : List Item
  unfinished : Bool
  deriving DecidableEq

namespace Row

def written (r : Row) : List String :=
  r.items.flatMap Item.written ++ if r.unfinished then ["-q"] else []

/-- The words that are no flags and no values of flags. -/
def words (r : Row) : List String :=
  r.items.filterMap Item.word?

/-- The values of the flags `-q`. -/
def values (r : Row) : List String :=
  r.items.filterMap Item.value?

def cons (i : Item) (r : Row) : Row :=
  { r with items := i :: r.items }

theorem written_cons (i : Item) (r : Row) : (r.cons i).written = i.written ++ r.written := by
  rw [written, cons, List.flatMap_cons, List.append_assoc]
  rfl

end Row

/-- A list is written as this row. -/
structure Splits (flag : Bool) (arguments : List String) (r : Row) : Prop where
  written : r.written = arguments
  fits : ∀ i ∈ r.items, i.Fits flag

/-! ## One row for each list -/

/-- The row of a list, read from the left. -/
def Row.of (flag : Bool) : List String → Row
  | [] => ⟨[], false⟩
  | word :: rest =>
    if word = "-q" then
      match rest with
      | [] => ⟨[], true⟩
      | value :: rest => (of flag rest).cons (.level value)
    else if flag && word = "-r" then (of flag rest).cons .retain
    else (of flag rest).cons (.word word)

/-- An item in front of a list is the first of its row. -/
theorem of_written_append {flag : Bool} {i : Item} (h : i.Fits flag) (arguments : List String) :
    Row.of flag (i.written ++ arguments) = (Row.of flag arguments).cons i := by
  cases i with
  | retain =>
    have hflag : flag = true := h
    rw [Item.written, List.singleton_append, Row.of.eq_def]
    simp [hflag]
  | level value =>
    rw [Item.written, List.cons_append, List.singleton_append, Row.of.eq_def]
    simp
  | word text =>
    rw [Item.written, List.singleton_append, Row.of.eq_def]
    simp only [if_neg h.1, if_neg h.not_flag]

theorem Splits.cons {flag : Bool} {arguments : List String} {r : Row} (h : Splits flag arguments r) {i : Item}
    (hi : i.Fits flag) : Splits flag (i.written ++ arguments) (r.cons i) where
  written := by rw [Row.written_cons, h.written]
  fits := List.forall_mem_cons.mpr ⟨hi, h.fits⟩

theorem splits_of (flag : Bool) (arguments : List String) : Splits flag arguments (Row.of flag arguments) := by
  induction arguments using Row.of.induct flag with
  | case1 => exact ⟨rfl, fun _ h => absurd h List.not_mem_nil⟩
  | case2 => exact ⟨rfl, fun _ h => absurd h List.not_mem_nil⟩
  | case3 value rest ih => exact ih.cons (i := .level value) trivial
  | case4 word rest hq hr ih =>
    simp only [Bool.and_eq_true, decide_eq_true_eq] at hr
    obtain ⟨hflag, rfl⟩ := hr
    have hitem : Item.retain.Fits flag := hflag
    exact of_written_append hitem rest ▸ ih.cons hitem
  | case5 word rest hq hr ih =>
    simp only [Bool.and_eq_true, decide_eq_true_eq, not_and] at hr
    have hitem : (Item.word word).Fits flag := ⟨hq, hr⟩
    exact of_written_append hitem rest ▸ ih.cons hitem

theorem eq_of_splits {flag : Bool} {arguments : List String} {r : Row} (h : Splits flag arguments r) :
    r = Row.of flag arguments := by
  obtain ⟨rfl, hfits⟩ := h
  obtain ⟨items, unfinished⟩ := r
  induction items with
  | nil => cases unfinished <;> rfl
  | cons i items ih =>
    obtain ⟨hi, hitems⟩ := List.forall_mem_cons.mp hfits
    have hwritten : Row.written ⟨i :: items, unfinished⟩ = i.written ++ Row.written ⟨items, unfinished⟩ :=
      Row.written_cons i ⟨items, unfinished⟩
    rw [hwritten, of_written_append hi, ← ih hitems]
    rfl

theorem existsUnique_splits (flag : Bool) (arguments : List String) : ∃! r, Splits flag arguments r :=
  ⟨Row.of flag arguments, splits_of flag arguments, fun _ h => eq_of_splits h⟩

example : Row.of true ["-q", "-r", "-r", "t", "-q"] = ⟨[.level "-r", .retain, .word "t"], true⟩ := by decide

/-! ## What the commands take -/

/-- The value is written as an integer, and this is a level of service. -/
def IsLevel (value : String) (qos : Int) : Prop :=
  Text.Integer.Spells value.toList qos ∧ (qos = 0 ∨ qos = 1 ∨ qos = 2)

theorem IsLevel.unique {value : String} {qos qos' : Int} (h : IsLevel value qos) (h' : IsLevel value qos') :
    qos = qos' :=
  Text.Integer.spells_unique h.1 h'.1

theorem isLevel_digit : IsLevel "0" 0 ∧ IsLevel "1" 1 ∧ IsLevel "2" 2 :=
  ⟨⟨Text.Integer.spells_digit ⟨by decide, 0x30, by decide, rfl⟩, .inl rfl⟩,
    ⟨Text.Integer.spells_digit ⟨by decide, 0x30, by decide, rfl⟩, .inr (.inl rfl)⟩,
    ⟨Text.Integer.spells_digit ⟨by decide, 0x30, by decide, rfl⟩, .inr (.inr rfl)⟩⟩

namespace Row

/-- Each `-q` has a value that is a level of service. -/
def Complete (r : Row) : Prop :=
  r.unfinished = false ∧ ∀ value ∈ r.values, ∃ qos, IsLevel value qos

/-- The last `-q` counts. -/
def LastLevel (r : Row) (default qos : Int) : Prop :=
  match r.values.getLast? with
  | none => qos = default
  | some value => IsLevel value qos

/-- A topic and a payload can be taken from the row. -/
def Publishable (r : Row) : Prop :=
  r.Complete ∧ ∃ topic word more, r.words = topic :: word :: more ∧ topic ≠ "" ∧ " ".intercalate (word :: more) ≠ ""

/-- What `pub` takes from a row. -/
structure Publishes (r : Row) (default : Int) (p : Publication) : Prop where
  topic : r.words.head? = some p.topic
  payload : p.payload = " ".intercalate r.words.tail
  qos : r.LastLevel default p.qos
  retained : p.retained = true ↔ .retain ∈ r.items

/-- Topics can be taken from the row. -/
def Requestable (r : Row) : Prop :=
  r.Complete ∧ r.words ≠ []

/-- What `sub` takes from a row. -/
structure Requests (r : Row) (default : Int) (q : Request) : Prop where
  topics : q.topics = r.words
  qos : r.LastLevel default q.qos

/-- Two rows that differ only in where the flags stand among the words: the values come in the same order. -/
structure Moved (r r' : Row) : Prop where
  words : r'.words = r.words
  values : r'.values = r.values
  retain : .retain ∈ r'.items ↔ .retain ∈ r.items
  unfinished : r'.unfinished = r.unfinished

end Row

/-! ## What the scan finds -/

namespace Row

/-- The level of service after the flags of a row, or what is wrong with the first value that is none. -/
def level (r : Row) (default : Int) : Except QosError Int :=
  r.values.foldlM (fun _ value => readQos value) default

/-- What the scan finds in a row. -/
def scanned (r : Row) (usage : Usage) (default : Int) (retained : Bool) : Except CommandError Scanned :=
  match r.level default with
  | .error cause => .error (.qos cause usage)
  | .ok qos =>
    if r.unfinished then .error (.arguments usage)
    else .ok ⟨r.words, qos, retained || .retain ∈ r.items⟩

variable (r : Row) (usage : Usage) (default : Int) (retained : Bool)

theorem scanned_cons_retain : (r.cons .retain).scanned usage default retained = r.scanned usage default true := by
  simp [scanned, level, values, words, cons, List.filterMap_cons, Item.value?, Item.word?]

theorem scanned_cons_level (value : String) : (r.cons (.level value)).scanned usage default retained =
    match readQos value with
    | .ok qos => r.scanned usage qos retained
    | .error cause => .error (.qos cause usage) := by
  cases h : readQos value <;>
    simp [scanned, level, values, words, cons, List.filterMap_cons, Item.value?, Item.word?, h, bind, Except.bind]

theorem scanned_cons_word (text : String) : (r.cons (.word text)).scanned usage default retained
    = (r.scanned usage default retained).map (.add text) := by
  have hlevel : (r.cons (.word text)).level default = r.level default := by
    simp [level, values, cons, List.filterMap_cons, Item.value?]
  rw [scanned, scanned, hlevel]
  cases r.level default with
  | error cause => rfl
  | ok qos =>
    by_cases h : r.unfinished = true <;>
      simp [cons, words, Item.word?, h, Except.map, Scanned.add]

end Row

section Scan

variable {flag : Bool} (usage : Usage) (default : Int) (retained : Bool)

theorem scanArguments_retain (rest : List String) :
    scanArguments usage true default retained (Item.retain.written ++ rest)
      = scanArguments usage true default true rest := by
  rw [Item.written, List.singleton_append, scanArguments.eq_def]
  simp

theorem scanArguments_level (value : String) (rest : List String) :
    scanArguments usage flag default retained ((Item.level value).written ++ rest) =
      match readQos value with
      | .ok qos => scanArguments usage flag qos retained rest
      | .error cause => .error (.qos cause usage) := by
  rw [Item.written, List.cons_append, List.singleton_append, scanArguments.eq_def]
  exact if_pos rfl

theorem scanArguments_word {text : String} (h : (Item.word text).Fits flag) (rest : List String) :
    scanArguments usage flag default retained ((Item.word text).written ++ rest)
      = (scanArguments usage flag default retained rest).map (.add text) := by
  rw [Item.written, List.singleton_append, scanArguments.eq_def]
  simp only [if_neg h.1, if_neg h.not_flag]

/-- The scan takes what its row has, item by item. -/
theorem scanArguments_of_splits {arguments : List String} {r : Row} (h : Splits flag arguments r) :
    scanArguments usage flag default retained arguments = r.scanned usage default retained := by
  obtain ⟨rfl, hfits⟩ := h
  obtain ⟨items, unfinished⟩ := r
  induction items generalizing default retained with
  | nil =>
    cases unfinished with
    | false => simp [Row.written, Row.scanned, Row.level, Row.values, Row.words, scanArguments, pure, Except.pure]
    | true => simp [Row.written, Row.scanned, Row.level, Row.values, scanArguments, pure, Except.pure]
  | cons i items ih =>
    obtain ⟨hi, hitems⟩ := List.forall_mem_cons.mp hfits
    have hrest := fun default retained => ih default retained hitems
    have hcons : (⟨i :: items, unfinished⟩ : Row) = Row.cons i ⟨items, unfinished⟩ := rfl
    rw [hcons, Row.written_cons]
    cases i with
    | retain =>
      have hflag : flag = true := hi
      subst hflag
      rw [scanArguments_retain, hrest, Row.scanned_cons_retain]
    | level value =>
      rw [scanArguments_level, Row.scanned_cons_level]
      cases readQos value with
      | error cause => rfl
      | ok qos => exact hrest qos retained
    | word text => rw [scanArguments_word usage default retained hi, hrest, Row.scanned_cons_word]

end Scan

/-! ## Levels of service -/

theorem isQos_iff {n : Int} : isQos n = true ↔ n = 0 ∨ n = 1 ∨ n = 2 := by
  simp [isQos, or_assoc]

theorem readQos_eq_ok_iff {value : String} {qos : Int} : readQos value = .ok qos ↔ IsLevel value qos := by
  rw [readQos, IsLevel, ← isQos_iff, ← Text.Integer.read?_eq_some_iff]
  cases Text.Integer.read? value with
  | none => simp
  | some n =>
    rw [Option.some.injEq]
    by_cases hn : isQos n = true
    · simp only [hn, if_true, Except.ok.injEq]
      exact ⟨fun h => ⟨h, h ▸ hn⟩, And.left⟩
    · simp only [hn, if_false, reduceCtorEq, false_iff]
      rintro ⟨rfl, h⟩
      exact hn h

theorem foldlM_readQos_eq_ok_iff {values : List String} {default qos : Int} :
    values.foldlM (fun _ value => readQos value) default = .ok qos ↔
      (∀ value ∈ values, ∃ n, IsLevel value n) ∧
        match values.getLast? with
        | none => qos = default
        | some value => IsLevel value qos := by
  induction values generalizing default with
  | nil => simp [pure, Except.pure, eq_comm]
  | cons value values ih =>
    rw [List.foldlM_cons, List.forall_mem_cons, List.getLast?_cons]
    cases hvalue : readQos value with
    | error cause =>
      have hnone : ¬ ∃ n, IsLevel value n := by
        rintro ⟨n, hn⟩
        rw [readQos_eq_ok_iff.mpr hn] at hvalue
        cases hvalue
      exact iff_of_false (by simp [bind, Except.bind]) fun h => hnone h.1.1
    | ok n =>
      have hn : IsLevel value n := readQos_eq_ok_iff.mp hvalue
      have hlast : qos = n ↔ IsLevel value qos := by rw [← readQos_eq_ok_iff, hvalue, Except.ok.injEq, eq_comm]
      show values.foldlM (fun _ value => readQos value) n = .ok qos ↔ _
      rw [ih]
      cases values.getLast? with
      | none => simp only [Option.getD_none, hlast, and_iff_right (⟨n, hn⟩ : ∃ n, IsLevel value n)]
      | some last => simp only [Option.getD_some, and_iff_right (⟨n, hn⟩ : ∃ n, IsLevel value n)]

/-! ## Rows of commands -/

namespace Row

variable {r r' : Row} {usage : Usage} {default : Int}

/-- When a scan succeeds, and with what. -/
theorem scanned_eq_ok_iff {s : Scanned} : r.scanned usage default false = .ok s ↔
    r.Complete ∧ s.words = r.words ∧ r.LastLevel default s.qos ∧ (s.retained = true ↔ .retain ∈ r.items) := by
  have hlevel : ∀ qos, r.level default = .ok qos ↔
      (∀ value ∈ r.values, ∃ n, IsLevel value n) ∧ r.LastLevel default qos := fun _ => foldlM_readQos_eq_ok_iff
  rw [scanned, Complete]
  cases hl : r.level default with
  | error cause =>
    refine iff_of_false nofun ?_
    rintro ⟨⟨_, hvalues⟩, _, hqos, _⟩
    rw [(hlevel s.qos).mpr ⟨hvalues, hqos⟩] at hl
    cases hl
  | ok qos =>
    obtain ⟨hvalues, hqos⟩ := (hlevel qos).mp hl
    by_cases hu : r.unfinished = true
    · simp [hu]
    · simp only [hu, Bool.false_eq_true, if_false, Except.ok.injEq, Bool.false_or]
      constructor
      · rintro rfl
        exact ⟨⟨trivial, hvalues⟩, rfl, hqos, decide_eq_true_iff⟩
      · rintro ⟨_, hwords, hqos', hretained⟩
        have hsame : r.level default = .ok s.qos := (hlevel s.qos).mpr ⟨hvalues, hqos'⟩
        rw [hl, Except.ok.injEq] at hsame
        obtain ⟨words, qos', retained⟩ := s
        simp only at hwords hsame hretained
        subst hwords hsame
        rw [Bool.eq_iff_iff.mpr (decide_eq_true_iff.trans hretained.symm)]

/-- A scan that fails names the way the command is written. -/
theorem usage_of_scanned_error {e : CommandError} {retained : Bool}
    (h : r.scanned usage default retained = .error e) : ∃ reason, e.message = reason ++ "\n" ++ usage.text := by
  rw [scanned] at h
  cases hl : r.level default with
  | error cause =>
    rw [hl] at h
    cases h
    exact ⟨cause.message, rfl⟩
  | ok qos =>
    rw [hl] at h
    simp only at h
    split_ifs at h
    cases h
    exact ⟨"invalid arguments", rfl⟩

theorem Moved.scanned (h : r.Moved r') (usage : Usage) (default : Int) (retained : Bool) :
    r'.scanned usage default retained = r.scanned usage default retained := by
  obtain ⟨hwords, hvalues, hretain, hunfinished⟩ := h
  simp only [Row.scanned, Row.level, hwords, hvalues, hretain, hunfinished]

theorem exists_lastLevel (h : r.Complete) (default : Int) : ∃ qos, r.LastLevel default qos := by
  unfold LastLevel
  cases hlast : r.values.getLast? with
  | none => exact ⟨default, rfl⟩
  | some value => exact h.2 value (List.mem_of_getLast? hlast)

end Row

section Commands

variable {arguments : List String} {r : Row} {default : Int}

theorem usage_of_scanArguments_error {usage : Usage} {flag retained : Bool} {e : CommandError}
    (h : scanArguments usage flag default retained arguments = .error e) :
    ∃ reason, e.message = reason ++ "\n" ++ usage.text := by
  rw [scanArguments_of_splits _ _ _ (splits_of flag arguments)] at h
  exact Row.usage_of_scanned_error h

theorem publication_eq_ok_iff (h : Splits true arguments r) {p : Publication} :
    Publication.ofArguments arguments default = .ok p ↔ r.Publishable ∧ r.Publishes default p := by
  rw [Publication.ofArguments, scanArguments_of_splits _ _ _ h]
  constructor
  · intro hp
    cases hs : r.scanned .pub default false with
    | error e =>
      rw [hs] at hp
      cases hp
    | ok s =>
      obtain ⟨hcomplete, hwords, hqos, hretained⟩ := Row.scanned_eq_ok_iff.mp hs
      simp only [hs, hwords] at hp
      cases hw : r.words with
      | nil => simp [hw] at hp
      | cons topic rest =>
        cases rest with
        | nil => simp [hw] at hp
        | cons word more =>
          simp only [hw] at hp
          split_ifs at hp with hempty
          cases hp
          simp only [Bool.or_eq_true, not_or, String.isEmpty_iff] at hempty
          exact ⟨⟨hcomplete, topic, word, more, hw, hempty⟩, by rw [hw]; rfl, by rw [hw]; rfl, hqos, hretained⟩
  · rintro ⟨⟨hcomplete, topic, word, more, hw, htopic, hpayload⟩, hp⟩
    have hs : r.scanned .pub default false = .ok ⟨r.words, p.qos, p.retained⟩ :=
      Row.scanned_eq_ok_iff.mpr ⟨hcomplete, rfl, hp.qos, hp.retained⟩
    have hsent : (⟨topic, " ".intercalate (word :: more), p.qos, p.retained⟩ : Publication) = p := by
      have hfirst := hp.topic
      have hrest := hp.payload
      rw [hw] at hfirst hrest
      rw [Option.some.inj hfirst]
      exact congrArg (fun payload => (⟨p.topic, payload, p.qos, p.retained⟩ : Publication)) hrest.symm
    have hempty : ¬ (topic.isEmpty || (" ".intercalate (word :: more)).isEmpty) = true := by
      simpa [String.isEmpty_iff] using ⟨htopic, hpayload⟩
    simp only [hs, hw, if_neg hempty]
    rw [hsent]

theorem exists_publication (h : Splits true arguments r) (hr : r.Publishable) :
    ∃ p, Publication.ofArguments arguments default = .ok p := by
  obtain ⟨hcomplete, topic, word, more, hwords, _⟩ := id hr
  obtain ⟨qos, hqos⟩ := Row.exists_lastLevel hcomplete default
  have hpublishes : r.Publishes default ⟨topic, " ".intercalate (word :: more), qos, decide (.retain ∈ r.items)⟩ :=
    ⟨by rw [hwords]; rfl, by rw [hwords]; rfl, hqos, decide_eq_true_iff⟩
  exact ⟨_, (publication_eq_ok_iff h).mpr ⟨hr, hpublishes⟩⟩

theorem request_eq_ok_iff (h : Splits false arguments r) {q : Request} :
    Request.ofArguments arguments default = .ok q ↔ r.Requestable ∧ r.Requests default q := by
  rw [Request.ofArguments, scanArguments_of_splits _ _ _ h]
  constructor
  · intro hq
    cases hs : r.scanned .sub default false with
    | error e =>
      rw [hs] at hq
      cases hq
    | ok s =>
      obtain ⟨hcomplete, hwords, hqos, _⟩ := Row.scanned_eq_ok_iff.mp hs
      simp only [hs, hwords] at hq
      split_ifs at hq with hempty
      cases hq
      exact ⟨⟨hcomplete, by simpa using hempty⟩, rfl, hqos⟩
  · rintro ⟨⟨hcomplete, hwords⟩, htopics, hqos⟩
    have hs : r.scanned .sub default false = .ok ⟨r.words, q.qos, decide (.retain ∈ r.items)⟩ :=
      Row.scanned_eq_ok_iff.mpr ⟨hcomplete, rfl, hqos, decide_eq_true_iff⟩
    simp only [hs, List.isEmpty_eq_false_iff.mpr hwords, Bool.false_eq_true, if_false]
    rw [← htopics]

theorem exists_request (h : Splits false arguments r) (hr : r.Requestable) :
    ∃ q, Request.ofArguments arguments default = .ok q := by
  obtain ⟨qos, hqos⟩ := Row.exists_lastLevel hr.1 default
  exact ⟨⟨r.words, qos⟩, (request_eq_ok_iff h).mpr ⟨hr, rfl, hqos⟩⟩

/-- A list that is refused is answered with the way the command is written. -/
theorem usage_of_publication_error {e : CommandError} (h : Publication.ofArguments arguments default = .error e) :
    ∃ reason, e.message = reason ++ "\n" ++ Usage.pub.text := by
  rw [Publication.ofArguments] at h
  cases hs : scanArguments .pub true default false arguments with
  | error e' =>
    rw [hs] at h
    cases h
    exact usage_of_scanArguments_error hs
  | ok s =>
    simp only [hs] at h
    split at h
    · split_ifs at h
      cases h
      exact ⟨"invalid arguments", rfl⟩
    · cases h
      exact ⟨"invalid arguments", rfl⟩

theorem usage_of_request_error {e : CommandError} (h : Request.ofArguments arguments default = .error e) :
    ∃ reason, e.message = reason ++ "\n" ++ Usage.sub.text := by
  rw [Request.ofArguments] at h
  cases hs : scanArguments .sub false default false arguments with
  | error e' =>
    rw [hs] at h
    cases h
    exact usage_of_scanArguments_error hs
  | ok s =>
    simp only [hs] at h
    split_ifs at h
    cases h
    exact ⟨"invalid arguments", rfl⟩

end Commands

/-! ## Moved flags, and both commands on one list -/

section Relations

variable {arguments arguments' : List String} {r r' : Row} {default : Int}

theorem publication_of_moved (h : Splits true arguments r) (h' : Splits true arguments' r') (hmoved : r.Moved r') :
    Publication.ofArguments arguments' default = Publication.ofArguments arguments default := by
  rw [Publication.ofArguments, Publication.ofArguments, scanArguments_of_splits _ _ _ h,
    scanArguments_of_splits _ _ _ h', hmoved.scanned]

theorem request_of_moved (h : Splits false arguments r) (h' : Splits false arguments' r') (hmoved : r.Moved r') :
    Request.ofArguments arguments' default = Request.ofArguments arguments default := by
  rw [Request.ofArguments, Request.ofArguments, scanArguments_of_splits _ _ _ h,
    scanArguments_of_splits _ _ _ h', hmoved.scanned]

theorem Item.fits_iff_of_not_mem {i : Item} (h : "-r" ∉ i.written) : i.Fits true ↔ i.Fits false := by
  cases i with
  | retain => exact absurd List.mem_cons_self h
  | level value => exact Iff.rfl
  | word text =>
    have htext : text ≠ "-r" := fun he => h (he ▸ List.mem_cons_self)
    simp [Fits, htext]

/-- A list without the word `-r` is the same row for both commands. -/
theorem splits_iff_of_not_mem (h : "-r" ∉ arguments) : Splits true arguments r ↔ Splits false arguments r := by
  have hitem : r.written = arguments → ∀ i ∈ r.items, (i.Fits true ↔ i.Fits false) := by
    rintro rfl i hi
    refine Item.fits_iff_of_not_mem fun hmem => h ?_
    exact List.mem_append_left _ (List.mem_flatMap.mpr ⟨i, hi, hmem⟩)
  constructor
  · rintro ⟨hwritten, hfits⟩
    exact ⟨hwritten, fun i hi => (hitem hwritten i hi).mp (hfits i hi)⟩
  · rintro ⟨hwritten, hfits⟩
    exact ⟨hwritten, fun i hi => (hitem hwritten i hi).mpr (hfits i hi)⟩

theorem scanArguments_iff_of_not_mem (h : "-r" ∉ arguments) (s : Scanned) :
    scanArguments .pub true default false arguments = .ok s ↔
      scanArguments .sub false default false arguments = .ok s := by
  have hpub := splits_of true arguments
  have hsub := (splits_iff_of_not_mem h).mp hpub
  rw [scanArguments_of_splits _ _ _ hpub, scanArguments_of_splits _ _ _ hsub, Row.scanned_eq_ok_iff,
    Row.scanned_eq_ok_iff]

/-- What is published is what would be asked for: the topic is the first word, and the payload is the others. -/
theorem request_of_publication (h : "-r" ∉ arguments) {p : Publication}
    (hp : Publication.ofArguments arguments default = .ok p) :
    ∃ more, Request.ofArguments arguments default = .ok ⟨p.topic :: more, p.qos⟩ ∧
      p.payload = " ".intercalate more := by
  have hpub := splits_of true arguments
  have hsub := (splits_iff_of_not_mem h).mp hpub
  obtain ⟨⟨hcomplete, _⟩, htopic, hpayload, hqos, _⟩ := (publication_eq_ok_iff hpub).mp hp
  obtain ⟨more, hmore⟩ := List.head?_eq_some_iff.mp htopic
  rw [hmore] at hpayload
  have hwords : (Row.of true arguments).words ≠ [] := hmore ▸ List.cons_ne_nil _ _
  exact ⟨more, (request_eq_ok_iff hsub).mpr ⟨⟨hcomplete, hwords⟩, hmore.symm, hqos⟩, hpayload⟩

end Relations

/-- **The grammar of arguments.**  Every list is exactly one row of items, with `-r` as a flag or as a word.

`pub` takes a publication from the row if and only if every `-q` has a value that is a level of service, and there
are a topic and a payload that are not empty; it is the first word, the others, the last level of service or else
the one by default, and retained just if an `-r` occurs.  `sub` does the same for at least one topic.  Otherwise the
way the command is written is named.  Nothing changes when flags are moved among the words.

Lists without the word `-r` are the same row for both commands, and both find the same words and levels of service. -/
theorem arguments_follow_grammar (arguments : List String) (default : Int) :
    (∀ flag, ∃! r, Splits flag arguments r) ∧
    (∀ r, Splits true arguments r →
      ((∃ p, Publication.ofArguments arguments default = .ok p) ↔ r.Publishable) ∧
      (∀ p, Publication.ofArguments arguments default = .ok p → r.Publishes default p) ∧
      (∀ e, Publication.ofArguments arguments default = .error e →
        ∃ reason, e.message = reason ++ "\n" ++ Usage.pub.text) ∧
      ∀ arguments' r', Splits true arguments' r' → r.Moved r' →
        Publication.ofArguments arguments' default = Publication.ofArguments arguments default) ∧
    (∀ r, Splits false arguments r →
      ((∃ q, Request.ofArguments arguments default = .ok q) ↔ r.Requestable) ∧
      (∀ q, Request.ofArguments arguments default = .ok q → r.Requests default q) ∧
      (∀ e, Request.ofArguments arguments default = .error e →
        ∃ reason, e.message = reason ++ "\n" ++ Usage.sub.text) ∧
      ∀ arguments' r', Splits false arguments' r' → r.Moved r' →
        Request.ofArguments arguments' default = Request.ofArguments arguments default) ∧
    ("-r" ∉ arguments →
      (∀ r, Splits true arguments r ↔ Splits false arguments r) ∧
      (∀ s, scanArguments .pub true default false arguments = .ok s ↔
        scanArguments .sub false default false arguments = .ok s) ∧
      ∀ p, Publication.ofArguments arguments default = .ok p →
        ∃ more, Request.ofArguments arguments default = .ok ⟨p.topic :: more, p.qos⟩ ∧
          p.payload = " ".intercalate more) := by
  refine ⟨fun flag => existsUnique_splits flag arguments, fun r h => ⟨⟨?_, exists_publication h⟩, ?_, ?_, ?_⟩,
    fun r h => ⟨⟨?_, exists_request h⟩, ?_, ?_, ?_⟩, fun h => ⟨?_, ?_, ?_⟩⟩
  · rintro ⟨p, hp⟩
    exact ((publication_eq_ok_iff h).mp hp).1
  · exact fun p hp => ((publication_eq_ok_iff h).mp hp).2
  · exact fun e he => usage_of_publication_error he
  · exact fun arguments' r' h' hmoved => publication_of_moved h h' hmoved
  · rintro ⟨q, hq⟩
    exact ((request_eq_ok_iff h).mp hq).1
  · exact fun q hq => ((request_eq_ok_iff h).mp hq).2
  · exact fun e he => usage_of_request_error he
  · exact fun arguments' r' h' hmoved => request_of_moved h h' hmoved
  · exact fun r => splits_iff_of_not_mem h
  · exact scanArguments_iff_of_not_mem h
  · exact fun p hp => request_of_publication h hp

/-- A level between the words counts, and a level that is none refuses the whole list. -/
theorem level_among_words :
    Publication.ofArguments ["-q", "0", "t", "-q", "2", "hello", "-r", "world"] 1 = .ok ⟨"t", "hello world", 2, true⟩ ∧
    ∀ p, Publication.ofArguments ["t", "hello", "-q", "3"] 1 ≠ .ok p := by
  obtain ⟨hzero, _, htwo⟩ := isLevel_digit
  constructor
  · obtain ⟨_, hpub, _⟩ := arguments_follow_grammar ["-q", "0", "t", "-q", "2", "hello", "-r", "world"] 1
    obtain ⟨hiff, hwhat, _⟩ := hpub _ (splits_of true _)
    have hvalues : ∀ value ∈ ["0", "2"], ∃ qos, IsLevel value qos := by
      simp only [List.mem_cons, List.not_mem_nil, or_false, forall_eq_or_imp, forall_eq]
      exact ⟨⟨0, hzero⟩, 2, htwo⟩
    obtain ⟨p, hp⟩ := hiff.mpr ⟨⟨rfl, hvalues⟩, "t", "hello", ["world"], rfl, by decide, by decide⟩
    obtain ⟨htopic, hpayload, hqos, hretained⟩ := hwhat p hp
    rw [hp]
    obtain ⟨topic, payload, qos, retained⟩ := p
    cases htopic
    cases hpayload
    cases htwo.unique hqos
    cases hretained.mpr (by decide)
    rfl
  · obtain ⟨_, hpub, _⟩ := arguments_follow_grammar ["t", "hello", "-q", "3"] 1
    obtain ⟨hiff, _⟩ := hpub _ (splits_of true _)
    intro p hp
    obtain ⟨⟨_, hvalues⟩, _⟩ := hiff.mp ⟨p, hp⟩
    obtain ⟨qos, hspells, hqos⟩ := hvalues "3" (by decide)
    have hthree : qos = 3 :=
      Text.Integer.spells_unique hspells (Text.Integer.spells_digit ⟨by decide, 0x30, by decide, rfl⟩)
    omega

end Arguments

end TopicShell
