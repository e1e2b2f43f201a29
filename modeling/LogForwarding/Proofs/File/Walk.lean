import LogForwarding.Proofs.File.Name
import LogForwarding.Proofs.Results
import Mathlib.Data.List.Induction

/-!
# Walking along paths

`FileTree.follow` goes along a path and looks at what lies at its end. Here the walk is told from
the look. `FileTree.step` says once where one segment leads, and `FileTree.walk` takes the
segments in turn, so that a path to an entry of a directory is the walk to the directory and one
more step, whatever links there are on the way.

## What is proved

* `FileTree.follow_eq`: following a path is a walk and a look.
* `FileTree.walk_append`: a path can be walked along in two parts.
* `FileTree.exists_below?_of_walk`: a walk that starts somewhere ends somewhere.
* `FileTree.walk_named`, `FileTree.walk_link`: walks through entries whose names are texts.
* `FileTree.lead_join`: the path of an entry leads to the directory and one step on.
* `FileTree.find_join`: what lies under it, unless the system refuses the path.
-/

namespace LogForwarding.FileTree

open FileName (ofText IsEntryName)

/-- How far a path has been followed. -/
structure Spot where
  /-- How many links may still be followed. -/
  links : Nat
  /-- The place, as names from the root. -/
  place : List FileName

/-- What lies at a spot. -/
def there (root : FileTree) (spot : Spot) : Except FileError FileTree :=
  (root.below? spot.place).elim (.error .notFound) .ok

/-- Where an entry of a directory leads. At a link, the segments of its target remain. -/
def enter (spot : Spot) (name : FileName) : FileTree → Except FileError (Spot × List FileName)
  | link target =>
    match spot.links with
    | 0 => .error .tooManyLinks
    | links + 1 =>
      .ok (⟨links, if target.head? = some slash then [] else spot.place⟩, segments target)
  | _ => .ok (⟨spot.links, spot.place ++ [name]⟩, [])

/-- Where one segment leads from a spot. -/
def step (root : FileTree) (spot : Spot) (name : FileName) :
    Except FileError (Spot × List FileName) :=
  match root.below? spot.place with
  | none => .error .notFound
  | some here =>
    if !here.isDirectory then .error .notDirectory
    else if name = [] || name = [0x2E] then .ok (spot, [])
    else if name = [0x2E, 0x2E] then .ok (⟨spot.links, above spot.place⟩, [])
    else if name.length > nameLimit then .error .nameTooLong
    else (here.entry? name).elim (.error .notFound) (enter spot name)

variable {root : FileTree} {spot next : Spot}

/-- A link costs one of the links that may be followed; nothing else leaves segments. -/
theorem links_of_enter {name : FileName} {tree : FileTree} {more : List FileName}
    (h : enter spot name tree = .ok (next, more)) :
    next.links < spot.links ∨ next.links = spot.links ∧ more = [] := by
  unfold enter at h
  split at h
  · split at h
    · cases h
    · rename_i hlinks
      cases h
      exact Or.inl (hlinks ▸ Nat.lt_succ_self _)
  · cases h
    exact Or.inr ⟨rfl, rfl⟩

theorem links_of_step {name : FileName} {more : List FileName}
    (h : root.step spot name = .ok (next, more)) :
    next.links < spot.links ∨ next.links = spot.links ∧ more = [] := by
  unfold step at h
  split at h
  · cases h
  rename_i here _
  split_ifs at h
  · cases h
    exact Or.inr ⟨rfl, rfl⟩
  · cases h
    exact Or.inr ⟨rfl, rfl⟩
  · cases hentry : here.entry? name with
    | none =>
      rw [hentry] at h
      cases h
    | some tree =>
      rw [hentry] at h
      exact links_of_enter h

/-- Takes the segments of a path in turn. -/
def walk (root : FileTree) (spot : Spot) (path : List FileName) : Except FileError Spot :=
  match path with
  | [] => .ok spot
  | name :: rest =>
    match _h : root.step spot name with
    | .error error => .error error
    | .ok (next, more) => walk root next (more ++ rest)
  termination_by (spot.links, path.length)
  decreasing_by
    obtain hlt | ⟨heq, rfl⟩ := links_of_step _h
    · exact Prod.Lex.left _ _ hlt
    · rw [heq]
      exact Prod.Lex.right _ (Nat.lt_succ_self _)

@[simp] theorem walk_nil : root.walk spot [] = .ok spot := by
  rw [walk]

theorem walk_cons (name : FileName) (rest : List FileName) : root.walk spot (name :: rest) =
    root.step spot name >>= fun (next, more) => root.walk next (more ++ rest) := by
  rw [walk]
  split <;> rename_i h <;> rw [h] <;> rfl

theorem follow_cons (spot : Spot) (name : FileName) (rest : List FileName) :
    root.follow spot.links spot.place (name :: rest) = root.step spot name >>=
      fun (next, more) => root.follow next.links next.place (more ++ rest) := by
  obtain ⟨links, place⟩ := spot
  rw [follow, step]
  cases root.below? place with
  | none => rfl
  | some here =>
    dsimp only
    split_ifs
    · rfl
    · rfl
    · rfl
    · rfl
    · cases here.entry? name with
      | none => rfl
      | some tree =>
        cases tree with
        | link target => cases links <;> rfl
        | _ => rfl

/-- **Following a path** is walking along it, and then a look at what lies there. -/
theorem follow_eq (spot : Spot) (path : List FileName) :
    root.follow spot.links spot.place path = root.walk spot path >>= root.there := by
  fun_induction walk root spot path with
  | case1 spot =>
    rw [follow]
    rfl
  | case2 spot name rest error h =>
    rw [follow_cons, h]
    rfl
  | case3 spot name rest next more h ih =>
    rw [follow_cons, h]
    exact ih

/-- **A path in two parts**: the second is walked along from where the first one ends. -/
theorem walk_append (spot : Spot) (first second : List FileName) :
    root.walk spot (first ++ second) = root.walk spot first >>= (root.walk · second) := by
  fun_induction walk root spot first with
  | case1 spot => rfl
  | case2 spot name rest error h =>
    rw [List.cons_append, walk_cons, h]
    rfl
  | case3 spot name rest next more h ih =>
    rw [List.cons_append, walk_cons, h, ← ih, List.append_assoc]
    rfl

/-! ### Places -/

theorem below?_concat (place : List FileName) (name : FileName) :
    root.below? (place ++ [name]) = (root.below? place).bind fun tree => tree.entry? name := by
  unfold below?
  rw [List.foldlM_append]
  simp only [List.foldlM_cons, List.foldlM_nil, bind_pure]
  rfl

/-- The directory above a place is there if the place is. -/
theorem exists_below?_above {place : List FileName} (h : ∃ tree, root.below? place = some tree) :
    ∃ tree, root.below? (above place) = some tree := by
  cases place using List.reverseRecOn with
  | nil => exact h
  | append_singleton before name =>
    obtain ⟨tree, htree⟩ := h
    rw [below?_concat] at htree
    obtain ⟨outer, houter, -⟩ := Option.bind_eq_some_iff.1 htree
    exact ⟨outer, by rwa [above, List.dropLast_concat]⟩

theorem exists_below?_of_enter {name : FileName} {here tree : FileTree} {more : List FileName}
    (hhere : root.below? spot.place = some here) (hentry : here.entry? name = some tree)
    (h : enter spot name tree = .ok (next, more)) : ∃ tree, root.below? next.place = some tree := by
  unfold enter at h
  split at h
  · split at h
    · cases h
    · cases h
      dsimp only
      split_ifs
      · exact ⟨root, rfl⟩
      · exact ⟨here, hhere⟩
  · cases h
    exact ⟨tree, by rw [below?_concat, hhere, Option.bind_some, hentry]⟩

theorem exists_below?_of_step {name : FileName} {more : List FileName}
    (hspot : ∃ tree, root.below? spot.place = some tree)
    (h : root.step spot name = .ok (next, more)) :
    ∃ tree, root.below? next.place = some tree := by
  unfold step at h
  split at h
  · cases h
  rename_i here hhere
  split_ifs at h
  · cases h
    exact hspot
  · cases h
    exact exists_below?_above hspot
  · cases hentry : here.entry? name with
    | none =>
      rw [hentry] at h
      cases h
    | some tree =>
      rw [hentry] at h
      exact exists_below?_of_enter hhere hentry h

/-- **A walk** that starts somewhere ends somewhere. -/
theorem exists_below?_of_walk {path : List FileName}
    (hspot : ∃ tree, root.below? spot.place = some tree) (h : root.walk spot path = .ok next) :
    ∃ tree, root.below? next.place = some tree := by
  fun_induction walk root spot path with
  | case1 spot =>
    cases h
    exact hspot
  | case2 spot name rest error hstep => cases h
  | case3 spot name rest other more hstep ih => exact ih (exists_below?_of_step hspot hstep) h

theorem there_eq_ok_iff {tree : FileTree} :
    root.there spot = .ok tree ↔ root.below? spot.place = some tree := by
  unfold there
  cases root.below? spot.place <;> simp

/-! ### Entries of a directory -/

/-- The step to an entry of a directory, where the name can be that of one. -/
theorem step_entry {entries : List (FileName × FileTree)}
    (hspot : root.below? spot.place = some (directory entries)) {name : FileName}
    (hname : name ≠ [] ∧ name ≠ [0x2E] ∧ name ≠ [0x2E, 0x2E]) :
    root.step spot name =
      if nameLimit < name.length then .error .nameTooLong
      else (entries.lookup name).elim (.error .notFound) (enter spot name) := by
  rw [step, hspot]
  simp only [isDirectory, Bool.not_true, Bool.false_eq_true, if_false, hname,
    decide_false, Bool.or_self, entry?]

theorem walk_entry {entries : List (FileName × FileTree)}
    (hspot : root.below? spot.place = some (directory entries)) {name : FileName}
    (hname : name.IsEntryName) {tree : FileTree} (hentry : entries.lookup name = some tree)
    (rest : List FileName) :
    root.walk spot (name :: rest) =
      enter spot name tree >>= fun (next, more) => root.walk next (more ++ rest) := by
  rw [walk_cons, step_entry hspot ⟨hname.ne_nil, hname.ne_dot, hname.ne_dots⟩,
    if_neg (Nat.not_lt.2 hname.length_le), hentry]
  rfl

theorem walk_entry_of_long {entries : List (FileName × FileTree)}
    (hspot : root.below? spot.place = some (directory entries)) {name : FileName}
    (hname : name ≠ [] ∧ name ≠ [0x2E] ∧ name ≠ [0x2E, 0x2E]) (hlong : nameLimit < name.length) :
    root.walk spot [name] = .error .nameTooLong := by
  rw [walk_cons, step_entry hspot hname, if_pos hlong]
  rfl

theorem walk_entry_of_notMem {entries : List (FileName × FileTree)}
    (hspot : root.below? spot.place = some (directory entries)) {name : FileName}
    (hname : name ≠ [] ∧ name ≠ [0x2E] ∧ name ≠ [0x2E, 0x2E]) (hshort : name.length ≤ nameLimit)
    (hmem : name ∉ entries.map Prod.fst) : root.walk spot [name] = .error .notFound := by
  have hnone : entries.lookup name = none := by
    refine List.lookup_eq_none_iff.2 fun entry hentry => bne_iff_ne.2 ?_
    rintro rfl
    exact hmem (List.mem_map_of_mem hentry)
  rw [walk_cons, step_entry hspot hname, if_neg (Nat.not_lt.2 hshort), hnone]
  rfl

/-- An empty segment makes no difference in front of another one. -/
theorem walk_nil_cons (name : FileName) (rest : List FileName) :
    root.walk spot ([] :: name :: rest) = root.walk spot (name :: rest) := by
  rw [walk_cons]
  cases hbelow : root.below? spot.place with
  | none => simp only [walk_cons, step, hbelow]; rfl
  | some here =>
    cases hdirectory : here.isDirectory with
    | false => simp only [walk_cons, step, hbelow, hdirectory]; rfl
    | true => simp only [step, hbelow, hdirectory]; rfl

/-! ### Paths -/

theorem segments_append_cons (first second : FileName) :
    segments (first ++ slash :: second) = segments first ++ segments second :=
  List.splitOnP_append_cons first second (by simp)

theorem segments_eq_singleton {name : FileName} (h : slash ∉ name) : segments name = [name] := by
  refine List.splitOnP_eq_singleton fun byte hbyte => ?_
  rw [decide_eq_false_iff_not]
  exact fun heq => h (heq ▸ hbyte)

/-! ### Entries with texts for names -/

/-- Whether this is a link. -/
def isLink : FileTree → Bool
  | link _ => true
  | _ => false

section Named

variable {entries : List (String × FileTree)} {links : Nat} {place : List FileName}
  (hplace : root.below? place = some (directory (named entries)))

include hplace

theorem below?_named (name : String) :
    root.below? (place ++ [ofText name]) = entries.lookup name := by
  rw [below?_concat, hplace, Option.bind_some, entry?, lookup_named]

variable {name : String} (hname : (ofText name).IsEntryName)

include hname

/-- A walk through an entry that is not a link. -/
theorem walk_named {tree : FileTree} (hentry : entries.lookup name = some tree)
    (htree : tree.isLink = false) (rest : List FileName) :
    root.walk ⟨links, place⟩ (ofText name :: rest) =
      root.walk ⟨links, place ++ [ofText name]⟩ rest := by
  rw [walk_entry hplace hname ((lookup_named entries name).trans hentry)]
  cases tree with
  | link target => cases htree
  | file _ | directory _ | special _ => rfl

/-- What an entry is that is not a link. -/
theorem there_named {tree : FileTree} (hentry : entries.lookup name = some tree)
    (htree : tree.isLink = false) :
    (root.walk ⟨links, place⟩ [ofText name] >>= root.there) = .ok tree := by
  rw [walk_named hplace hname hentry htree, walk_nil, ok_bind, there_eq_ok_iff,
    below?_named hplace, hentry]

/-- A link that does not start at the root is followed from the directory that it is in. -/
theorem walk_link {target : FileName} (hentry : entries.lookup name = some (link target))
    (htarget : target.head? ≠ some slash) (rest : List FileName) :
    root.walk ⟨links + 1, place⟩ (ofText name :: rest) =
      root.walk ⟨links, place⟩ (segments target ++ rest) := by
  rw [walk_entry hplace hname ((lookup_named entries name).trans hentry)]
  simp only [enter, if_neg htarget]
  rfl

/-- A link to an entry beside it. -/
theorem walk_link_beside {target : String}
    (hentry : entries.lookup name = some (link (ofText target)))
    (htarget : (ofText target).IsEntryName) (rest : List FileName) :
    root.walk ⟨links + 1, place⟩ (ofText name :: rest) =
      root.walk ⟨links, place⟩ (ofText target :: rest) := by
  have hhead : (ofText target).head? ≠ some slash :=
    fun h => htarget.slash_notMem (List.mem_of_head? h)
  rw [walk_link hplace hname hentry hhead, segments_eq_singleton htarget.slash_notMem,
    List.singleton_append]

end Named

/-! ### Where paths lead -/

/-- Where a path starts. -/
def origin (working : List FileName) (path : FileName) : Spot :=
  ⟨linkLimit, if path.head? = some slash then [] else working⟩

/-- Where a path leads, if the system takes it. -/
def lead (root : FileTree) (working : List FileName) (path : String) : Except FileError Spot :=
  root.walk (origin working (ofText path)) (segments (ofText path))

variable {working : List FileName}

/-- The path of a directory under the root of a tree. -/
theorem lead_named {entries : List (String × FileTree)} {name : String}
    (hname : (ofText name).IsEntryName) {inner : List (FileName × FileTree)}
    (hentry : entries.lookup name = some (directory inner)) :
    (directory (named entries)).lead [] name = .ok ⟨linkLimit, [ofText name]⟩ := by
  have hhead : (ofText name).head? ≠ some slash :=
    fun h => hname.slash_notMem (List.mem_of_head? h)
  rw [lead, segments_eq_singleton hname.slash_notMem, origin, if_neg hhead,
    walk_named rfl hname hentry rfl]
  exact walk_nil

/-- A slash behind the path of a directory makes no difference. -/
theorem lead_append_slash {path : String} (hpath : path ≠ "")
    {entries : List (FileName × FileTree)}
    (hspot : root.below? spot.place = some (directory entries))
    (hlead : root.lead working path = .ok spot) : root.lead working (path ++ "/") = .ok spot := by
  have hhead : (ofText path ++ [slash]).head? = (ofText path).head? := by
    refine List.head?_append_of_ne_nil _ ?_
    rwa [ne_eq, FileName.ofText_eq_nil_iff]
  have hstep : root.walk spot [[]] = .ok spot := by
    rw [walk_cons, step, hspot]
    exact walk_nil
  unfold lead at hlead ⊢
  rw [FileName.ofText_append, FileName.ofText_slash, origin, hhead, ← origin, segments_append_cons,
    walk_append, hlead, ok_bind]
  exact hstep

/-- What lies under a path that the system takes. -/
theorem find_eq {path : String} (hzero : 0 ∉ ofText path) (hpath : path ≠ "")
    (hfits : path.utf8ByteSize ≤ pathLimit) :
    root.find working path = root.lead working path >>= root.there := by
  have hnil : (ofText path).isEmpty = false := by
    rw [List.isEmpty_eq_false_iff, ne_eq, FileName.ofText_eq_nil_iff]
    exact hpath
  rw [← FileName.length_ofText] at hfits
  unfold find
  rw [show path.toUTF8.toList = ofText path from rfl]
  simp only [List.contains_eq_mem, hzero, decide_false, Bool.false_eq_true, if_false, hnil,
    Nat.not_lt.2 hfits]
  exact follow_eq (origin working (ofText path)) (segments (ofText path))

theorem find_of_zero {path : String} (hzero : 0 ∈ ofText path) :
    root.find working path = .error .zeroInPath := by
  unfold find
  rw [show path.toUTF8.toList = ofText path from rfl]
  simp only [List.contains_eq_mem, hzero, decide_true, if_true]

theorem find_of_long {path : String} (hzero : 0 ∉ ofText path)
    (hlong : pathLimit < path.utf8ByteSize) :
    root.find working path = .error .nameTooLong := by
  have hnil : (ofText path).isEmpty = false := by
    rw [List.isEmpty_eq_false_iff, ← List.length_pos_iff, FileName.length_ofText]
    omega
  rw [← FileName.length_ofText] at hlong
  unfold find
  rw [show path.toUTF8.toList = ofText path from rfl]
  simp only [List.contains_eq_mem, hzero, decide_false, Bool.false_eq_true, if_false, hnil, hlong,
    if_true]

/-! ### Paths of entries -/

/-- A path of an entry is the directory's with the name behind it, and a slash between them,
unless there is one already or no path to put it behind. -/
theorem ofText_join (directory name : String) :
    directory = "" ∧ Path.join directory name = name
      ∨ (∃ before, ofText directory = before ++ [slash]
          ∧ ofText (Path.join directory name) = before ++ slash :: ofText name)
      ∨ directory ≠ ""
          ∧ ofText (Path.join directory name) = ofText directory ++ slash :: ofText name := by
  unfold Path.join
  split_ifs with h
  · rw [Bool.or_eq_true, String.isEmpty_iff, decide_eq_true_iff] at h
    rcases h with rfl | hlast
    · exact Or.inl ⟨rfl, String.empty_append⟩
    · have hdirectory : directory = String.ofList directory.toList.dropLast ++ "/" := by
        rw [← String.toList_inj, String.toList_append, String.toList_ofList]
        exact (List.dropLast_append_getLast? _ hlast).symm
      refine Or.inr (Or.inl ⟨ofText (String.ofList directory.toList.dropLast), ?_, ?_⟩)
      · conv_lhs => rw [hdirectory, FileName.ofText_append, FileName.ofText_slash]
      · conv_lhs =>
          rw [hdirectory, FileName.ofText_append, FileName.ofText_append, FileName.ofText_slash]
        rw [List.append_assoc, List.singleton_append]
  · rw [Bool.or_eq_true, not_or, String.isEmpty_iff] at h
    refine Or.inr (Or.inr ⟨h.1, ?_⟩)
    rw [FileName.ofText_append, FileName.ofText_append, FileName.ofText_slash, List.append_assoc,
      List.singleton_append]

/-- A path of an entry is at least as long as what it is made of. -/
theorem le_utf8ByteSize_join (directory name : String) :
    directory.utf8ByteSize + name.utf8ByteSize ≤ (Path.join directory name).utf8ByteSize := by
  unfold Path.join
  simp only [apply_ite String.utf8ByteSize, String.utf8ByteSize_append]
  split_ifs <;> omega

theorem zero_mem_join_iff {directory name : String} :
    0 ∈ ofText (Path.join directory name) ↔ 0 ∈ ofText directory ∨ 0 ∈ ofText name := by
  rcases ofText_join directory name with ⟨rfl, hjoin⟩ | ⟨before, hbefore, hjoin⟩ | ⟨-, hjoin⟩
  · rw [hjoin, FileName.ofText_eq_nil_iff.2 rfl]
    simp
  · rw [hjoin, hbefore]
    simp [slash]
  · rw [hjoin]
    simp [slash]

theorem join_ne_empty (directory : String) {name : String} (hname : name ≠ "") :
    Path.join directory name ≠ "" := by
  rw [ne_eq, ← FileName.ofText_eq_nil_iff]
  rcases ofText_join directory name with ⟨-, hjoin⟩ | ⟨before, -, hjoin⟩ | ⟨-, hjoin⟩
  · rwa [hjoin, FileName.ofText_eq_nil_iff]
  · simp [hjoin]
  · simp [hjoin]

/-- **The path of an entry** leads to the directory and one step on. -/
theorem lead_join (directory : String) {name : String} (hslash : slash ∉ ofText name) :
    root.lead working (Path.join directory name) =
      root.lead working directory >>= (root.walk · [ofText name]) := by
  unfold lead
  rw [← walk_append]
  rcases ofText_join directory name with ⟨rfl, hjoin⟩ | ⟨before, hdirectory, hjoin⟩ | ⟨hne, hjoin⟩
  · have hempty : ofText "" = [] := FileName.ofText_eq_nil_iff.2 rfl
    have hhead : (ofText name).head? ≠ some slash := fun h => hslash (List.mem_of_head? h)
    rw [hjoin, hempty, segments_eq_singleton hslash, segments_eq_singleton List.not_mem_nil,
      List.singleton_append, walk_nil_cons]
    simp only [origin, hhead, List.head?_nil, if_false, reduceCtorEq]
  · have hhead : (before ++ slash :: ofText name).head? = (before ++ [slash]).head? := by
      cases before <;> rfl
    have hcut : segments (before ++ [slash]) = segments before ++ [[]] :=
      segments_append_cons before []
    rw [hjoin, hdirectory, origin, hhead, ← origin, segments_append_cons,
      segments_eq_singleton hslash, hcut, List.append_assoc, List.singleton_append, walk_append,
      walk_append]
    simp only [walk_nil_cons]
  · have hhead : (ofText directory ++ slash :: ofText name).head? = (ofText directory).head? := by
      refine List.head?_append_of_ne_nil _ ?_
      rwa [ne_eq, FileName.ofText_eq_nil_iff]
    rw [hjoin, origin, hhead, ← origin, segments_append_cons, segments_eq_singleton hslash]

/-- **What lies under the path of an entry**, unless the system refuses the path. -/
theorem find_join {directory name : String} (hlead : root.lead working directory = .ok spot)
    (hdirectory : 0 ∉ ofText directory) (hzero : 0 ∉ ofText name) (hname : name ≠ "")
    (hslash : slash ∉ ofText name)
    (hfits : (Path.join directory name).utf8ByteSize ≤ pathLimit) :
    root.find working (Path.join directory name) =
      root.walk spot [ofText name] >>= root.there := by
  have hpath : 0 ∉ ofText (Path.join directory name) :=
    fun h => (zero_mem_join_iff.1 h).elim hdirectory hzero
  rw [find_eq hpath (join_ne_empty directory hname) hfits, lead_join directory hslash, hlead,
    ok_bind]

end LogForwarding.FileTree
