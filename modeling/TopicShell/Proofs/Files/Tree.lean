import TopicShell.Files.Tree
import TopicShell.Proofs.Entries

/-!
# Files that are written to

A path that leads to a file, or to where a file can be put, leads there as well when the file has been put there
(`locate_put`): on the way to it there are directories only, and putting a file replaces none of them.  So opening
a file that holds something and storing octets in it can be told by what the path leads to before and after
(`Holds.openTarget`, `HasFile.store`).
-/

namespace TopicShell.Files

/-- The components under which a place is kept. -/
def Place.spot? : Place → Option (List String)
  | node spot _ => some spot
  | free spot => some spot
  | sink => none
  | fullDevice => none

/-- The place is what the tree has under its components. -/
def Place.StandsIn (t : Tree) : Place → Prop
  | node spot n => t.node? spot = some n
  | free spot => t.node? spot = none
  | sink => True
  | fullDevice => True

namespace Tree

variable {t : Tree} {path : String} {spot other : List String}

/-! ## Nodes -/

theorem lookup_put (t : Tree) (spot other : List String) (n : Node) :
    (t.put spot n).nodes.lookup other = if other == spot then some n else t.nodes.lookup other := by
  rw [put, any_key]
  cases h : t.nodes.lookup spot with
  | none =>
    show (t.nodes ++ [(spot, n)]).lookup other = _
    by_cases ho : other = spot
    · subst ho
      rw [List.lookup_append, h, Option.none_or, List.lookup_cons, beq_self_eq_true, if_pos rfl]
    · rw [List.lookup_append, List.lookup_cons, beq_false_of_ne ho, List.lookup_nil, Option.or_none]
      rfl
  | some old =>
    rw [Option.isSome_some, if_pos rfl, lookup_map_replace, h]
    rfl

theorem node?_put_self (t : Tree) (hspot : spot ≠ []) (n : Node) : (t.put spot n).node? spot = some n := by
  rw [node?, if_neg (by simpa using hspot), lookup_put, beq_self_eq_true, if_pos rfl]

theorem node?_put_of_ne (t : Tree) (h : other ≠ spot) (n : Node) : (t.put spot n).node? other = t.node? other := by
  rw [node?, node?, lookup_put, beq_false_of_ne h]
  rfl

/-! ## The way to a place -/

theorem standsIn_of_walk {here rest : List String} {place : Place} (h : t.walk here rest = .ok place) :
    place.StandsIn t := by
  fun_induction walk t here rest with
  | case1 here n hn =>
    cases h
    exact hn
  | case2 => cases h
  | case3 => cases h
  | case4 here name rest hname next hdir ih => exact ih h
  | case5 here name hname next n hnode hn =>
    cases h
    exact hn
  | case6 => cases h
  | case7 here name hname next hn =>
    cases h
    exact hn
  | case8 => cases h

/-- **Something that is put at the end of the way** is what the way leads to. -/
theorem walk_put {here rest : List String} {place : Place} {n : Node} (h : t.walk here rest = .ok place)
    (hplace : place.spot? = some spot) (hdir : t.node? spot ≠ some .directory) (hn : n ≠ .directory) :
    (t.put spot n).walk here rest = .ok (.node spot n) := by
  have hne : spot ≠ [] := by
    rintro rfl
    exact hdir rfl
  have hself := t.node?_put_self hne n
  fun_induction walk t here rest with
  | case1 here n' hn' =>
    cases h
    cases hplace
    rw [walk, hself]
  | case2 => cases h
  | case3 => cases h
  | case4 here name rest hname next hdir' ih =>
    have hnext : (t.put spot n).node? next = some .directory :=
      (t.node?_put_of_ne (fun he : next = spot => hdir (he ▸ hdir')) n).trans hdir'
    rw [walk, if_neg hname, show (if name = ".." then above here else here ++ [name]) = next from rfl]
    simp only [hnext]
    exact ih h
  | case5 here name hname next n' hnode hn' =>
    have hspot : next = spot := by
      rw [← Except.ok.inj h] at hplace
      exact Option.some.inj hplace
    rw [walk, if_neg hname, show (if name = ".." then above here else here ++ [name]) = next from rfl, hspot]
    simp only [hself]
  | case6 => cases h
  | case7 here name hname next hn' =>
    have hspot : next = spot := by
      rw [← Except.ok.inj h] at hplace
      exact Option.some.inj hplace
    rw [walk, if_neg hname, show (if name = ".." then above here else here ++ [name]) = next from rfl, hspot]
    simp only [hself]
  | case8 => cases h

/-- The directory from which a path is walked. -/
def startOf (path : String) : List String :=
  if (Path.parse path).isAbsolute then [root] else []

/-- The path leads to a place by walking: it can be used, it is no device, and a slash at its end asks for no file. -/
structure Walks (t : Tree) (path : String) (place : Place) : Prop where
  usable : path.isEmpty = false ∧ path.toList.contains '\x00' = false ∧ ¬ 4096 ≤ path.utf8ByteSize
  noDevice : isDevicePath (Path.parse path) "null" = false ∧ isDevicePath (Path.parse path) "full" = false
  start : (t.node? (startOf path)).isSome
  walk : t.walk (startOf path) (Path.parse path).parts = .ok place
  noSlash : ∀ spot n, place = .node spot n → n.content?.isSome → path.toList.getLast? ≠ some '/'

theorem Walks.locate {place : Place} (h : t.Walks path place) : t.locate path = .ok place := by
  obtain ⟨hempty, hnull, hlong⟩ := h.usable
  obtain ⟨hsink, hfull⟩ := h.noDevice
  obtain ⟨n, hn⟩ := Option.isSome_iff_exists.mp h.start
  have hwalk := h.walk
  rw [startOf] at hn hwalk
  simp only [Tree.locate, hempty, hnull, hlong, hsink, hfull, hn, hwalk, Bool.false_eq_true, if_false]
  cases place with
  | node s n =>
    have hslash := h.noSlash s n rfl
    exact if_neg (by simpa using hslash)
  | _ => rfl

theorem walks_of_locate {place : Place} (h : t.locate path = .ok place) (hplace : place.spot? = some spot) :
    t.Walks path place := by
  have hsink : place ≠ .sink := by
    rintro rfl
    cases hplace
  have hfull : place ≠ .fullDevice := by
    rintro rfl
    cases hplace
  dsimp only [Tree.locate] at h
  -- errors and devices are no places with components
  iterate 5
    split at h
    · simp_all
  rename_i hempty hnull hlong hnodevice hnodevice'
  simp only [Bool.not_eq_true] at hempty hnull hnodevice hnodevice'
  split at h
  · cases h
  · rename_i start s n hn hwalk
    split at h
    · cases h
    · rename_i hslash
      cases h
      refine ⟨⟨hempty, hnull, hlong⟩, ⟨hnodevice, hnodevice'⟩, ?_, hwalk, ?_⟩
      · exact Option.isSome_iff_exists.mpr ⟨start, hn⟩
      · rintro _ _ ⟨⟩ hfile
        simpa [hfile] using hslash
  · rename_i start hn hnode
    refine ⟨⟨hempty, hnull, hlong⟩, ⟨hnodevice, hnodevice'⟩, ?_, h, ?_⟩
    · exact Option.isSome_iff_exists.mpr ⟨start, hn⟩
    · rintro s n rfl
      exact absurd h (hnode s n)

theorem standsIn_of_locate {place : Place} (h : t.locate path = .ok place) (hplace : place.spot? = some spot) :
    place.StandsIn t :=
  standsIn_of_walk (walks_of_locate h hplace).walk

/-- A path that leads to some place leads to what is put there. -/
theorem locate_put {place : Place} (h : t.locate path = .ok place) (hplace : place.spot? = some spot)
    (hdir : t.node? spot ≠ some .directory) (hslash : path.toList.getLast? ≠ some '/') (content : Octets)
    (executable : Bool) :
    (t.put spot (.file content executable)).locate path = .ok (.node spot (.file content executable)) := by
  have hwalks := walks_of_locate h hplace
  have hstart : ((t.put spot (.file content executable)).node? (startOf path)).isSome := by
    by_cases hs : startOf path = spot
    · have hne : spot ≠ [] := by
        rintro rfl
        exact hdir rfl
      rw [hs, t.node?_put_self hne]
      rfl
    · rw [t.node?_put_of_ne hs]
      exact hwalks.start
  exact Walks.locate ⟨hwalks.usable, hwalks.noDevice, hstart, walk_put hwalks.walk hplace hdir nofun,
    fun _ _ _ _ => hslash⟩

/-! ## What a file holds -/

/-- The path leads to a regular file that can be written to, and this is what the file holds; a file that is not
there yet holds nothing. -/
inductive Holds (t : Tree) (path : String) (spot : List String) : Octets → Prop where
  | file {content : Octets} {executable : Bool}
      (h : t.locate path = .ok (.node spot (.file content executable))) : Holds t path spot content
  | nothing (h : t.locate path = .ok (.free spot)) (hslash : path.toList.getLast? ≠ some '/') : Holds t path spot []

/-- The file is there, and this is what it holds. -/
def HasFile (t : Tree) (path : String) (spot : List String) (content : Octets) : Prop :=
  ∃ executable, t.locate path = .ok (.node spot (.file content executable))

theorem HasFile.holds {content : Octets} (h : t.HasFile path spot content) : t.Holds path spot content :=
  .file h.choose_spec

theorem HasFile.of_locate {t' : Tree} {content : Octets} (h : t.HasFile path spot content)
    (hsame : t'.locate path = t.locate path) : t'.HasFile path spot content := by
  obtain ⟨executable, h⟩ := h
  exact ⟨executable, hsame.trans h⟩

theorem read_of_locate {t' : Tree} (hsame : t'.locate path = t.locate path) : t'.read path = t.read path := by
  rw [Tree.read, Tree.read, hsame]

theorem HasFile.read {content : Octets} (h : t.HasFile path spot content) : t.read path = .ok content := by
  obtain ⟨executable, h⟩ := h
  rw [Tree.read, h]

theorem Holds.of_locate {t' : Tree} {content : Octets} (h : t.Holds path spot content)
    (hsame : t'.locate path = t.locate path) : t'.Holds path spot content := by
  cases h with
  | file h => exact .file (hsame.trans h)
  | nothing h hslash => exact .nothing (hsame.trans h) hslash

/-- **Opening a file** keeps what it holds, or empties it. -/
theorem Holds.openTarget {content : Octets} (h : t.Holds path spot content) (appends : Bool) :
    ∃ t', t.openTarget path appends = .ok (⟨.regular spot, appends, 0⟩, t') ∧
      t'.HasFile path spot (if appends then content else []) := by
  cases h with
  | @file content executable h =>
    refine ⟨if appends then t else t.put spot (.file [] executable), by rw [Tree.openTarget, h], executable, ?_⟩
    cases appends with
    | true => exact h
    | false =>
      have hstands : t.node? spot = some (.file content executable) := standsIn_of_locate h rfl
      refine locate_put h rfl ?_ ((walks_of_locate h rfl).noSlash _ _ rfl rfl) [] executable
      rw [hstands]
      exact nofun
  | nothing h hslash =>
    have hstands : t.node? spot = none := standsIn_of_locate h rfl
    refine ⟨t.put spot (.file [] false), by simp only [Tree.openTarget, h, if_neg hslash], false, ?_⟩
    rw [ite_self]
    refine locate_put h rfl ?_ hslash [] false
    rw [hstands]
    exact nofun

/-- **Octets that arrive in a file** come behind what it holds; a file that was emptied holds nothing before. -/
theorem HasFile.store {content : Octets} {appends : Bool} (h : t.HasFile path spot content)
    (hempty : appends = false → content = []) (octets : Octets) :
    (t.store ⟨.regular spot, appends, 0⟩ octets).HasFile path spot (content ++ octets) := by
  obtain ⟨executable, h⟩ := h
  have hstands : t.node? spot = some (.file content executable) := standsIn_of_locate h rfl
  have hcontent : (if appends then content ++ octets else overwrite content 0 octets) = content ++ octets := by
    cases appends with
    | true => rfl
    | false => rw [hempty rfl, if_neg Bool.false_ne_true, overwrite_nil, List.nil_append]
  refine ⟨executable, ?_⟩
  simp only [Tree.store, hstands, hcontent]
  refine locate_put h rfl ?_ ((walks_of_locate h rfl).noSlash _ _ rfl rfl) _ executable
  rw [hstands]
  exact nofun

end Tree

end TopicShell.Files
