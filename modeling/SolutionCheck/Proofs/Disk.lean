import Mathlib.Data.List.Induction
import SolutionCheck.Disk
import SolutionCheck.Proofs.Result

/-!
Locations and what changes of a disk leave alone. In a tree nothing stands below a place where nothing
stands. A path that goes on behind a folder without going upwards stays below it. The disk outside a
folder is what remains when the folder is taken away, and changes below the folder do not touch it.
-/

namespace SolutionCheck

namespace Path

/-- A part of a path that leads nowhere but down. -/
def Descends (part : String) : Prop := isAbsolute part = false ∧ ".." ∉ names part

instance (part : String) : Decidable (Descends part) :=
  inferInstanceAs (Decidable (isAbsolute part = false ∧ ".." ∉ names part))

theorem toList_slash : ("/" : String).toList = ['/'] := rfl

theorem names_append_slash (base part : String) :
    names (base ++ "/" ++ part) = names base ++ names part := by
  have split : (base ++ "/" ++ part).toList.splitOn '/' =
      base.toList.splitOn '/' ++ part.toList.splitOn '/' := by
    rw [String.toList_append, String.toList_append, toList_slash, List.append_assoc, List.singleton_append,
      List.splitOn_append_cons_self]
  rw [names, split, List.filter_append, List.map_append]
  rfl

theorem names_empty : names "" = [] := rfl

theorem names_join {base part : String} (filled : base ≠ "") (relative : isAbsolute part = false) :
    names (join base part) = names base ++ names part := by
  have nonempty : base.isEmpty = false := by simpa using filled
  rw [join, relative, nonempty]
  split
  · contradiction
  · split
    · next slash =>
      -- the slash between the parts stands at the end of the first one already
      obtain ⟨front, chars⟩ := List.getLast?_eq_some_iff.1 slash
      have base_eq : base = String.ofList front ++ "/" := by
        rw [← String.toList_inj, chars, String.toList_append, String.toList_ofList, toList_slash]
      have front_eq : names base = names (String.ofList front) := by
        rw [base_eq, ← String.append_empty (s := _ ++ "/"), names_append_slash, names_empty, List.append_nil]
      rw [front_eq, base_eq, names_append_slash]
    · exact names_append_slash base part

theorem isAbsolute_append {base : String} (filled : base ≠ "") (part : String) :
    isAbsolute (base ++ part) = isAbsolute base := by
  have nonempty : base.toList ≠ [] := by simpa using filled
  obtain ⟨c, rest, chars⟩ := List.exists_cons_of_ne_nil nonempty
  simp [isAbsolute, chars]

theorem isAbsolute_join {base part : String} (filled : base ≠ "") (relative : isAbsolute part = false) :
    isAbsolute (join base part) = isAbsolute base := by
  have nonempty : base.isEmpty = false := by simpa using filled
  rw [join, relative, nonempty]
  split
  · contradiction
  · split
    · exact isAbsolute_append filled part
    · rw [String.append_assoc]
      exact isAbsolute_append filled _

end Path

namespace Disk

/-- Whatever stands on the disk stands in a folder, and the working folder is there. -/
structure IsTree (disk : Disk) : Prop where
  parents : ∀ e ∈ disk.entries, disk.entry? e.1.dropLast = some .folder
  working : disk.entry? disk.workingFolder = some .folder

theorem entry?_root (disk : Disk) : disk.entry? [] = some .folder := rfl

theorem mem_entries {disk : Disk} {location : Location} {entry : Entry}
    (found : disk.entry? location = some entry) (below : location ≠ []) :
    (location, entry) ∈ disk.entries := by
  simp only [List.isEmpty_iff, entry?, if_neg below, Option.map_eq_some_iff] at found
  obtain ⟨e, first, rfl⟩ := found
  have here := List.find?_some first
  simp only [decide_eq_true_eq] at here
  exact here ▸ List.mem_of_find?_eq_some first

theorem entry?_ne_none_of_mem {disk : Disk} {e : Location × Entry} (mem : e ∈ disk.entries) :
    disk.entry? e.1 ≠ none := by
  unfold entry?
  split
  · simp
  · rw [ne_eq, Option.map_eq_none_iff, List.find?_eq_none]
    exact fun none => none e mem (by simp)

theorem IsTree.entry?_ne_none {disk : Disk} (tree : disk.IsTree) {location inner : Location}
    (stands : disk.entry? inner ≠ none) (above : location <+: inner) : disk.entry? location ≠ none := by
  induction inner using List.reverseRecOn with
  | nil => simp [List.prefix_nil.1 above, entry?_root]
  | append_singleton front name ih =>
    rcases List.prefix_concat_iff.1 above with rfl | above
    · exact stands
    · obtain ⟨entry, found⟩ := Option.ne_none_iff_exists'.1 stands
      have parent := tree.parents _ (mem_entries found (by simp))
      rw [List.dropLast_concat] at parent
      exact ih (by simp [parent]) above

theorem entry?_dropLast {disk : Disk} (tree : disk.IsTree) {location : Location}
    (stands : disk.entry? location ≠ none) : disk.entry? location.dropLast = some .folder := by
  by_cases root : location = []
  · rw [root]
    rfl
  · obtain ⟨entry, found⟩ := Option.ne_none_iff_exists'.1 stands
    exact tree.parents _ (mem_entries found root)

theorem entry?_remove (disk : Disk) {location other : Location} (outside : ¬ location <+: other) :
    entry? (disk.remove location) other = disk.entry? other := by
  unfold entry? remove
  split
  · rfl
  · rw [List.find?_filter]
    congr 2
    funext e
    by_cases here : e.1 = other
    · simpa [here, ← List.isPrefixOf_iff_prefix] using outside
    · simp [here]

theorem entry?_remove_of_below (disk : Disk) {location inner : Location} (below : location <+: inner)
    (notRoot : location ≠ []) : entry? (disk.remove location) inner = none := by
  have within : location.isPrefixOf inner = true := List.isPrefixOf_iff_prefix.2 below
  have filled : inner ≠ [] := by
    rintro rfl
    exact notRoot (List.prefix_nil.1 below)
  simp only [remove, entry?, List.isEmpty_iff, if_neg filled, List.find?_filter, Option.map_eq_none_iff,
    List.find?_eq_none, Bool.not_eq_true', decide_eq_true_eq, not_and]
  rintro e - outside rfl
  cases within.symm.trans outside

theorem remove_eq_self {disk : Disk} {location : Location}
    (absent : ∀ e ∈ disk.entries, ¬ location <+: e.1) : disk.remove location = disk := by
  have kept : disk.entries.filter (fun e => !location.isPrefixOf e.1) = disk.entries := by
    rw [List.filter_eq_self]
    intro e mem
    simpa [← List.isPrefixOf_iff_prefix] using absent e mem
  rw [remove, kept]

theorem IsTree.remove_eq_self {disk : Disk} (tree : disk.IsTree) {location : Location}
    (free : disk.entry? location = none) : disk.remove location = disk :=
  Disk.remove_eq_self fun _ mem above =>
    tree.entry?_ne_none (entry?_ne_none_of_mem mem) above free

theorem remove_put (disk : Disk) {location inner : Location} (below : location <+: inner) (entry : Entry) :
    (disk.put inner entry).remove location = disk.remove location := by
  have within : location.isPrefixOf inner = true := List.isPrefixOf_iff_prefix.2 below
  simp only [remove, put, List.filter_cons, within, Bool.not_true, Bool.false_eq_true, if_false,
    List.filter_filter]
  congr 1
  refine List.filter_congr fun e _ => ?_
  by_cases here : e.1 = inner
  · simp [here, within]
  · simp [here]

theorem remove_setContents (disk : Disk) (location : Location) (contents : List (Location × Entry)) :
    (disk.setContents location contents).remove location = disk.remove location := by
  have inside : ((contents.filter fun e => !e.1.isEmpty).map fun e => (location ++ e.1, e.2)).filter
      (fun e => !location.isPrefixOf e.1) = [] := by
    rw [List.filter_eq_nil_iff]
    intro e mem
    obtain ⟨inner, -, rfl⟩ := List.mem_map.1 mem
    simp [List.isPrefixOf_iff_prefix]
  simp only [remove, setContents, List.filter_append, inside, List.nil_append, List.filter_filter]
  congr 1
  refine List.filter_congr fun e _ => ?_
  cases location.isPrefixOf e.1 <;> simp

theorem entry?_put_of_ne (disk : Disk) {location other : Location} (entry : Entry)
    (apart : other ≠ location) : entry? (disk.put location entry) other = disk.entry? other := by
  unfold entry? put
  split
  · rfl
  · rw [List.find?_cons_of_neg (by simpa using apart.symm), List.find?_filter]
    congr 2
    funext e
    by_cases here : e.1 = other
    · simp [here, apart]
    · simp [here]

theorem put_eq_of_free {disk : Disk} {location : Location} (entry : Entry)
    (free : disk.entry? location = none) :
    disk.put location entry = { disk with entries := (location, entry) :: disk.entries } := by
  have kept : disk.entries.filter (fun e => e.1 ≠ location) = disk.entries := by
    rw [List.filter_eq_self]
    intro e mem
    have apart : e.1 ≠ location := fun same => entry?_ne_none_of_mem mem (same ▸ free)
    simpa using apart
  rw [put, kept]

theorem IsTree.put_folder {disk : Disk} (tree : disk.IsTree) {location : Location}
    (free : disk.entry? location = none) (parent : disk.entry? location.dropLast = some .folder) :
    (disk.put location .folder).IsTree := by
  have keeps (other : Location) (stands : disk.entry? other = some .folder) :
      entry? (disk.put location .folder) other = some .folder := by
    rw [entry?_put_of_ne, stands]
    rintro rfl
    cases free.symm.trans stands
  constructor
  · intro e mem
    rw [put_eq_of_free .folder free] at mem
    rcases List.mem_cons.1 mem with rfl | mem
    · exact keeps _ parent
    · exact keeps _ (tree.parents e mem)
  · exact keeps _ tree.working

def FoldersIn (disk other : Disk) : Prop :=
  ∀ location, disk.entry? location = some .folder → other.entry? location = some .folder

theorem enter_ok {disk : Disk} {folder inner : Location} {name : String}
    (entered : disk.enter folder name = .ok inner) :
    (name = "." ∧ inner = folder) ∨ (name = ".." ∧ inner = folder.dropLast) ∨
      (name.utf8ByteSize ≤ maxNameSize ∧ inner = folder ++ [name] ∧
        disk.entry? inner = some .folder ∧ name ≠ "." ∧ name ≠ "..") := by
  unfold enter at entered
  split at entered
  · next here => exact .inl ⟨here, (Except.ok.inj entered).symm⟩
  · next other =>
    split at entered
    · next up => exact .inr (.inl ⟨up, (Except.ok.inj entered).symm⟩)
    · next down =>
      split at entered
      · cases entered
      · next short =>
        split at entered
        · cases entered
        · cases entered
        · next stands =>
          cases entered
          exact .inr (.inr ⟨Nat.le_of_not_lt short, rfl, stands, other, down⟩)

theorem enter_mono {disk other : Disk} (folders : disk.FoldersIn other) {folder inner : Location}
    {name : String} (entered : disk.enter folder name = .ok inner) :
    other.enter folder name = .ok inner := by
  rcases enter_ok entered with ⟨rfl, rfl⟩ | ⟨rfl, rfl⟩ | ⟨short, rfl, stands, here, down⟩
  · rfl
  · rfl
  · simp [enter, here, down, Nat.not_lt.2 short, folders _ stands]

theorem enter_folder {disk : Disk} (tree : disk.IsTree) {folder inner : Location} {name : String}
    (start : disk.entry? folder = some .folder) (entered : disk.enter folder name = .ok inner) :
    disk.entry? inner = some .folder := by
  rcases enter_ok entered with ⟨rfl, rfl⟩ | ⟨rfl, rfl⟩ | ⟨-, rfl, stands, -, -⟩
  · exact start
  · exact entry?_dropLast tree (by simp [start])
  · exact stands

theorem follow_cons (disk : Disk) (folder : Location) (name : String) {rest : List String}
    (further : rest ≠ []) :
    disk.follow folder (name :: rest) = (disk.enter folder name >>= (disk.follow · rest)) := by
  cases rest with
  | nil => exact absurd rfl further
  | cons next rest => rfl

theorem follow_of_enter {disk : Disk} {folder inner : Location} {name : String}
    (entered : disk.enter folder name = .ok inner) : disk.follow folder [name] = .ok inner := by
  rcases enter_ok entered with ⟨rfl, rfl⟩ | ⟨rfl, rfl⟩ | ⟨short, rfl, stands, here, down⟩
  · rfl
  · rfl
  · simp [follow, here, down, Nat.not_lt.2 short]

theorem follow_singleton_ok {disk : Disk} {folder inner : Location} {name : String}
    (found : disk.follow folder [name] = .ok inner) :
    disk.enter folder name = .ok inner ∨
      (inner = folder ++ [name] ∧ ∀ other : Disk, other.follow folder [name] = .ok inner) := by
  unfold follow at found
  split at found
  · exact .inl found
  · next plain =>
    split at found
    · cases found
    · next short =>
      cases found
      exact .inr ⟨rfl, fun other => by simp only [follow, if_neg plain, if_neg short]⟩

/-- A property of where paths lead that holds of the folder a path begins in, that every entered
folder hands on, and that holds of a last name behind such a folder. -/
theorem follow_induction {disk : Disk} {P : Location → Prop} {names : List String}
    (enter : ∀ folder inner name, name ∈ names → P folder → disk.enter folder name = .ok inner → P inner)
    {Q : Location → Prop} (last : ∀ folder name, name ∈ names → P folder → Q (folder ++ [name]))
    (within : ∀ folder, P folder → Q folder) {folder inner : Location} (start : P folder)
    (found : disk.follow folder names = .ok inner) : Q inner := by
  induction names generalizing folder with
  | nil =>
    cases found
    exact within _ start
  | cons name rest ih =>
    by_cases further : rest = []
    · subst further
      rcases follow_singleton_ok found with entered | ⟨here, -⟩
      · exact within inner (enter folder inner name List.mem_cons_self start entered)
      · exact here ▸ last folder name List.mem_cons_self start
    · rw [follow_cons disk folder name further] at found
      obtain ⟨next, entered, found⟩ := bind_eq_ok found
      exact ih (fun f i n mem => enter f i n (List.mem_cons_of_mem name mem))
        (fun f n mem => last f n (List.mem_cons_of_mem name mem))
        (enter folder next name List.mem_cons_self start entered) found

theorem follow_descends {disk : Disk} {folder inner : Location} {names : List String}
    (down : ".." ∉ names) (found : disk.follow folder names = .ok inner) : folder <+: inner := by
  refine follow_induction (P := (folder <+: ·)) ?_ ?_ (fun _ => id) (List.prefix_refl folder) found
  · intro outer inner name mem below entered
    rcases enter_ok entered with ⟨-, rfl⟩ | ⟨rfl, -⟩ | ⟨-, rfl, -, -, -⟩
    · exact below
    · exact absurd mem down
    · exact below.trans (List.prefix_append _ _)
  · intro outer name _ below
    exact below.trans (List.prefix_append _ _)

theorem follow_parent {disk : Disk} (tree : disk.IsTree) {folder inner : Location} {names : List String}
    (start : disk.entry? folder = some .folder) (found : disk.follow folder names = .ok inner) :
    disk.entry? inner.dropLast = some .folder := by
  refine follow_induction (P := fun outer => disk.entry? outer = some .folder)
    (Q := fun outer => disk.entry? outer.dropLast = some .folder)
    (fun _ _ _ _ stands => enter_folder tree stands) (fun outer name _ stands => ?_)
    (fun outer stands => entry?_dropLast tree (by simp [stands])) start found
  rwa [List.dropLast_concat]

theorem follow_mono {disk other : Disk} (folders : disk.FoldersIn other) {folder inner : Location}
    {names : List String} (found : disk.follow folder names = .ok inner) :
    other.follow folder names = .ok inner := by
  induction names generalizing folder with
  | nil => exact found
  | cons name rest ih =>
    by_cases further : rest = []
    · subst further
      rcases follow_singleton_ok found with entered | ⟨-, anywhere⟩
      · exact follow_of_enter (enter_mono folders entered)
      · exact anywhere other
    · rw [follow_cons _ folder name further] at found ⊢
      obtain ⟨next, entered, found⟩ := bind_eq_ok found
      rw [enter_mono folders entered]
      exact ih found

theorem follow_append_ok {disk : Disk} {folder inner : Location} {names further : List String}
    (found : disk.follow folder (names ++ further) = .ok inner) :
    ∃ outer, disk.follow folder names = .ok outer ∧ disk.follow outer further = .ok inner := by
  induction names generalizing folder with
  | nil => exact ⟨folder, rfl, found⟩
  | cons name rest ih =>
    by_cases last : rest ++ further = []
    · obtain ⟨rfl, rfl⟩ := List.append_eq_nil_iff.1 last
      exact ⟨inner, found, rfl⟩
    · rw [List.cons_append, follow_cons _ folder name last] at found
      obtain ⟨next, entered, found⟩ := bind_eq_ok found
      obtain ⟨outer, reached, onward⟩ := ih found
      refine ⟨outer, ?_, onward⟩
      by_cases ended : rest = []
      · subst ended
        cases reached
        exact follow_of_enter entered
      · rw [follow_cons _ folder name ended, entered]
        exact reached

theorem locate_eq_ok {disk : Disk} {path : String} {location : Location}
    (found : disk.locate path = .ok location) :
    path ≠ "" ∧ disk.follow (disk.start path) (Path.names path) = .ok location ∧
      ∀ other : Disk, other.locate path = other.follow (other.start path) (Path.names path) := by
  unfold locate at found
  split at found
  · cases found
  · next clean =>
    split at found
    · cases found
    · next filled =>
      split at found
      · cases found
      · next short =>
        refine ⟨by simpa using filled, found, fun other => ?_⟩
        rw [locate, if_neg clean, if_neg filled, if_neg short]

theorem locate_mono {disk other : Disk} (folders : disk.FoldersIn other)
    (working : other.workingFolder = disk.workingFolder) {path : String} {location : Location}
    (found : disk.locate path = .ok location) : other.locate path = .ok location := by
  obtain ⟨-, followed, elsewhere⟩ := locate_eq_ok found
  have start : other.start path = disk.start path := by rw [Disk.start, working, Disk.start]
  rw [elsewhere, start]
  exact follow_mono folders followed

theorem locate_join {disk : Disk} {folder part : String} {location inner : Location}
    (found : disk.locate folder = .ok location) (down : Path.Descends part)
    (joined : disk.locate (Path.join folder part) = .ok inner) : location <+: inner := by
  obtain ⟨filled, outer, -⟩ := locate_eq_ok found
  obtain ⟨-, whole, -⟩ := locate_eq_ok joined
  have start : disk.start (Path.join folder part) = disk.start folder := by
    rw [Disk.start, Path.isAbsolute_join filled down.1, Disk.start]
  rw [start, Path.names_join filled down.1] at whole
  obtain ⟨reached, first, onward⟩ := follow_append_ok whole
  cases outer.symm.trans first
  exact follow_descends down.2 onward

theorem writeText_eq_ok {disk made : Disk} {path text : String} (done : disk.writeText path text = .ok made) :
    ∃ location, disk.locate path = .ok location ∧ made = disk.put location (.file (some text)) := by
  obtain ⟨location, found, done⟩ := bind_eq_ok done
  refine ⟨location, found, ?_⟩
  split at done
  · cases done
  · split at done
    · cases done
    · exact (Except.ok.inj done).symm
  · split at done
    · cases done
    · exact (Except.ok.inj done).symm

theorem makeFolder_eq_ok {disk made : Disk} {folder : Location} {names : List String}
    (done : disk.makeFolder folder names = .ok made) :
    ∃ location, disk.follow folder names = .ok location ∧ disk.entry? location = none ∧
      made = disk.put location .folder := by
  obtain ⟨location, found, done⟩ := bind_eq_ok done
  refine ⟨location, found, ?_⟩
  split at done
  · cases done
  · next free => exact ⟨free, (Except.ok.inj done).symm⟩

theorem createFolder_eq_ok {disk made : Disk} {path : String} (done : disk.createFolder path = .ok made) :
    ∃ location, disk.locate path = .ok location ∧ disk.entry? location = none ∧
      made = disk.put location .folder := by
  unfold createFolder at done
  split at done
  · cases done
  · next clean =>
    split at done
    · cases done
    · next filled =>
      split at done
      · cases done
      · next short =>
        rw [locate, if_neg clean, if_neg filled, if_neg short]
        exact makeFolder_eq_ok done

/-- The second disk has some folders more than the first, each on the way along the names. -/
def GainsFolders (before after : Disk) (folder : Location) (names : List String) : Prop :=
  ∃ added : List Location,
    after = { before with entries := added.map (·, Entry.folder) ++ before.entries } ∧
    ∀ location ∈ added, ∃ front, front <+: names ∧ after.follow folder front = .ok location

/-- The second disk is a tree like the first and has some folders more, each on the way along the names. -/
structure Extends (before after : Disk) (folder : Location) (names : List String) : Prop where
  gains : before.GainsFolders after folder names
  tree : after.IsTree
  folders : before.FoldersIn after

theorem Extends.refl {disk : Disk} (tree : disk.IsTree) (folder : Location) (names : List String) :
    disk.Extends disk folder names :=
  ⟨⟨[], rfl, by simp⟩, tree, fun _ => id⟩

theorem Extends.trans {first second third : Disk} {folder : Location} {front names : List String}
    (lower : first.Extends second folder front) (upper : second.Extends third folder names)
    (onward : front <+: names) : first.Extends third folder names := by
  obtain ⟨old, rfl, oldOnWay⟩ := lower.gains
  obtain ⟨new, rfl, newOnWay⟩ := upper.gains
  refine ⟨⟨new ++ old, by simp, fun location mem => ?_⟩, upper.tree,
    fun location stands => upper.folders location (lower.folders location stands)⟩
  rcases List.mem_append.1 mem with mem | mem
  · exact newOnWay location mem
  · obtain ⟨way, within, reached⟩ := oldOnWay location mem
    exact ⟨way, within.trans onward, follow_mono upper.folders reached⟩

theorem makeFolder_extends {disk made : Disk} (tree : disk.IsTree) {folder : Location}
    (start : disk.entry? folder = some .folder) {names : List String}
    (done : disk.makeFolder folder names = .ok made) : disk.Extends made folder names := by
  obtain ⟨location, found, free, rfl⟩ := makeFolder_eq_ok done
  have folders : disk.FoldersIn (disk.put location .folder) := by
    intro other stands
    rw [entry?_put_of_ne, stands]
    rintro rfl
    cases free.symm.trans stands
  refine ⟨⟨[location], ?_, ?_⟩, tree.put_folder free (follow_parent tree start found), folders⟩
  · rw [put_eq_of_free .folder free]
    rfl
  · intro other mem
    cases List.mem_singleton.1 mem
    exact ⟨names, List.prefix_refl names, follow_mono folders found⟩

theorem ensureAt_extends {disk : Disk} (tree : disk.IsTree) {folder : Location}
    (start : disk.entry? folder = some .folder) (names : List String) :
    disk.Extends (disk.ensureAt folder names).1 folder names.reverse := by
  induction names with
  | nil => exact Extends.refl tree folder []
  | cons name above ih =>
    have onward : above.reverse <+: (name :: above).reverse := by simp
    have settled (upper : Disk) (fault : FileFault) :
        (if upper.leadsToFolder folder (name :: above).reverse then (upper, none)
          else (upper, some fault)).1 = upper := by
      split <;> rfl
    cases done : disk.makeFolder folder (name :: above).reverse with
    | ok made =>
      simp only [ensureAt, done]
      exact makeFolder_extends tree start done
    | error fault =>
      cases fault
      case notFound =>
        -- the folder above is not there, so it is made first
        cases lower : disk.ensureAt folder above with
        | mk upper stuck =>
          have raised : disk.Extends upper folder above.reverse := by rwa [lower] at ih
          have onto (made : Disk) (ext : upper.Extends made folder (name :: above).reverse) :=
            raised.trans ext onward
          cases stuck with
          | some fault =>
            simp only [ensureAt, done, lower]
            exact onto upper (Extends.refl raised.tree folder _)
          | none =>
            cases again : upper.makeFolder folder (name :: above).reverse with
            | ok made =>
              simp only [ensureAt, done, lower, again]
              exact onto made (makeFolder_extends raised.tree (raised.folders folder start) again)
            | error fault =>
              simp only [ensureAt, done, lower, again, settled]
              exact onto upper (Extends.refl raised.tree folder _)
      all_goals
        simp only [ensureAt, done, settled]
        exact Extends.refl tree folder _

theorem ensureFolder_extends {disk : Disk} (tree : disk.IsTree) (path : String) :
    disk.Extends (disk.ensureFolder path).1 (disk.start path)
      ((Path.names path).filter (· ≠ ".")) := by
  have start : disk.entry? (disk.start path) = some .folder := by
    unfold Disk.start
    split
    · rfl
    · exact tree.working
  unfold ensureFolder
  split
  · exact Extends.refl tree _ _
  · split
    · exact Extends.refl tree _ _
    · have made := ensureAt_extends tree start ((Path.names path).filter (· ≠ ".")).reverse
      rwa [List.reverse_reverse] at made

end Disk

end SolutionCheck
