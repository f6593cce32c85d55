import Subscription.Host.Machine
import Subscription.Proofs.Host.OldVersion

/-!
# Where a machine has the name of its series from

The description of a release may name the series in a member of its own, and there are two such
members. Older releases do not have them, and there the name stands in the version. A machine whose
release is described in either way finds the name (`Machine.series_of_description`).
-/

namespace Subscription

namespace Release

/-! ### Members -/

theorem isName_version : IsName "VERSION" := ⟨by decide, by decide⟩

theorem isName_codename {field : String} (h : field ∈ codenameFields) : IsName field := by
  rcases List.mem_pair.1 h with rfl | rfl <;> exact ⟨by decide, by decide⟩

/-- The first member for the name of the series that is not empty gives it. -/
theorem series_of_codename {release : Release} {field : String} {before after : List String}
    (order : codenameFields = before ++ field :: after)
    (empty : ∀ other ∈ before, release.value other = "") (named : release.value field ≠ "") :
    release.series = .ok (lowerCase (release.value field)) := by
  have found : (codenameFields.map fun name => lowerCase (release.value name)).find? (· ≠ "") =
      some (lowerCase (release.value field)) := by
    rw [order, List.map_append, List.map_cons, List.find?_append, List.find?_eq_none.2,
      List.find?_cons_of_pos, Option.none_or]
    · simpa [lowerCase_eq_empty_iff] using named
    · simpa [lowerCase_eq_empty_iff] using empty
  rw [series, found]

/-- Without a codename the version decides, and without a version nothing does. -/
theorem series_of_no_codename {release : Release}
    (empty : ∀ field ∈ codenameFields, release.value field = "") : release.series =
      if release.value "VERSION" = "" then .error (.missingField "VERSION_CODENAME")
      else (seriesInVersion? (release.value "VERSION")).elim
        (.error (.invalidVersion (release.value "VERSION"))) .ok := by
  have found : (codenameFields.map fun name => lowerCase (release.value name)).find? (· ≠ "") =
      none := by
    rw [List.find?_eq_none]
    simpa [lowerCase_eq_empty_iff] using empty
  simp only [series, found]
  split
  · rfl
  · split
    · next name => rw [name, Option.elim_some]
    · next no_name => rw [no_name, Option.elim_none]

/-! ### Descriptions -/

section Description

variable {text : String}

/-- The first member for the name of the series that a description does not leave out counts. -/
theorem series_of_firstSets {field : String} {before after : List String} {raw : List Char}
    (order : codenameFields = before ++ field :: after)
    (without : ∀ other ∈ before, LeavesOut other (linesOf text))
    (sets : FirstSets field (linesOf text) raw) (letter : ∃ c ∈ raw, c ≠ '"') :
    (ofText text).series = .ok (lowerCase (String.ofList (withoutQuotes raw))) := by
  have value := value_of_firstSets (isName_codename (by simp [order])) sets
  have named : (ofText text).value field ≠ "" := by
    rw [value, Ne, String.ofList_eq_empty_iff, withoutQuotes_eq_nil_iff]
    simpa using letter
  have empty : ∀ other ∈ before, (ofText text).value other = "" := by
    intro other among
    exact (value_eq_empty_iff (isName_codename (by simp [order, among]))).2 (without other among)
  rw [series_of_codename order empty named, value]

/-- A codename that the text leaves out is empty. -/
theorem value_codename (without : ∀ field ∈ codenameFields, LeavesOut field (linesOf text)) :
    ∀ field ∈ codenameFields, (ofText text).value field = "" :=
  fun field among => (value_eq_empty_iff (isName_codename among)).2 (without field among)

/-- Without a member for the name of the series it is the name in the version. -/
theorem OldVersion.series_of_firstSets (version : OldVersion)
    (without : ∀ field ∈ codenameFields, LeavesOut field (linesOf text))
    (sets : FirstSets "VERSION" (linesOf text) ('"' :: version.chars ++ ['"'])) :
    (ofText text).series = .ok (String.ofList (version.name.map Char.toLower)) := by
  have value := value_of_firstSets isName_version sets
  rw [version.withoutQuotes_chars] at value
  have some_version : ¬String.ofList version.unquoted.chars = "" := by
    rw [String.ofList_eq_empty_iff]
    exact version.unquoted.chars_ne_nil
  rw [series_of_no_codename (value_codename without), value, if_neg some_version,
    seriesInVersion?_chars, Option.elim_some]
  rfl

/-- A text that leaves out the codenames and the version misses a field. -/
theorem series_of_leavesOut (without : ∀ field ∈ codenameFields, LeavesOut field (linesOf text))
    (noVersion : LeavesOut "VERSION" (linesOf text)) :
    (ofText text).series = .error (.missingField "VERSION_CODENAME") := by
  rw [series_of_no_codename (value_codename without),
    (value_eq_empty_iff isName_version).2 noVersion, if_pos rfl]

end Description

end Release

namespace Machine

open Release

/-! ### Machines -/

variable {machine : Machine} {tree : FileTree} {text kernel : String}

theorem readText_of_read {path : String}
    (h : tree.read (PathText.names path) = .ok (Utf8.encode text)) :
    readText tree path = .ok text := by
  rw [readText, h]
  simp only [Utf8.decode?_encode, Option.elim_some]

/-- A machine whose files can be read is known if its series is. -/
theorem platform_eq
    (described : readText tree (machine.systemPath "etc/os-release") = .ok text)
    (running : readText tree (machine.systemPath "proc/sys/kernel/osrelease") = .ok kernel) :
    machine.platform tree = (ofText text).series.map fun series =>
      { arch := packageArch machine.processor
        kernel := trimmed kernel
        series
        distribution := (ofText text).value "NAME"
        release := (ofText text).value "VERSION_ID" } := by
  simp only [platform, described, running, bind, Except.bind, pure, Except.pure]
  cases (ofText text).series with
  | ok series => rfl
  | error cause => rfl

/-- The platform is told with the series that its description gives. -/
theorem exists_platform_of_series {series : String}
    (described : readText tree (machine.systemPath "etc/os-release") = .ok text)
    (running : readText tree (machine.systemPath "proc/sys/kernel/osrelease") = .ok kernel)
    (h : (ofText text).series = .ok series) :
    ∃ platform, machine.platform tree = .ok platform ∧ platform.series = series := by
  rw [platform_eq described running, h]
  exact ⟨_, rfl, rfl⟩

/-- **The name of the series is found wherever a description has it.** A description of an older
release, with neither of the members for the name of the series, has it in the version, and the
machine finds it there in lower case, whatever lines stand around that of the version. Without a
version the machine says what is missing. A member for the name of the series counts whatever the
version is, and of two such members the first. -/
theorem series_of_description
    (described : readText tree (machine.systemPath "etc/os-release") = .ok text)
    (running : readText tree (machine.systemPath "proc/sys/kernel/osrelease") = .ok kernel) :
    (∀ version : OldVersion,
      LeavesOut "VERSION_CODENAME" (linesOf text) → LeavesOut "UBUNTU_CODENAME" (linesOf text) →
      FirstSets "VERSION" (linesOf text) ('"' :: version.chars ++ ['"']) →
      ∃ platform, machine.platform tree = .ok platform ∧
        platform.series = String.ofList (version.name.map Char.toLower)) ∧
    (LeavesOut "VERSION_CODENAME" (linesOf text) → LeavesOut "UBUNTU_CODENAME" (linesOf text) →
      LeavesOut "VERSION" (linesOf text) →
      machine.platform tree = .error (.missingField "VERSION_CODENAME")) ∧
    (∀ raw, FirstSets "VERSION_CODENAME" (linesOf text) raw → (∃ c ∈ raw, c ≠ '"') →
      ∃ platform, machine.platform tree = .ok platform ∧
        platform.series = lowerCase (String.ofList (withoutQuotes raw))) ∧
    (∀ raw, LeavesOut "VERSION_CODENAME" (linesOf text) →
      FirstSets "UBUNTU_CODENAME" (linesOf text) raw → (∃ c ∈ raw, c ≠ '"') →
      ∃ platform, machine.platform tree = .ok platform ∧
        platform.series = lowerCase (String.ofList (withoutQuotes raw))) := by
  have both (noFirst : LeavesOut "VERSION_CODENAME" (linesOf text))
      (noSecond : LeavesOut "UBUNTU_CODENAME" (linesOf text)) :
      ∀ field ∈ codenameFields, LeavesOut field (linesOf text) := by
    intro field among
    rcases List.mem_pair.1 among with rfl | rfl
    · exact noFirst
    · exact noSecond
  have first : codenameFields = [] ++ "VERSION_CODENAME" :: ["UBUNTU_CODENAME"] := rfl
  have second : codenameFields = ["VERSION_CODENAME"] ++ "UBUNTU_CODENAME" :: [] := rfl
  refine ⟨?_, ?_, ?_, ?_⟩
  · intro version noFirst noSecond sets
    exact exists_platform_of_series described running
      (version.series_of_firstSets (both noFirst noSecond) sets)
  · intro noFirst noSecond noVersion
    rw [platform_eq described running, series_of_leavesOut (both noFirst noSecond) noVersion]
    rfl
  · intro raw sets letter
    exact exists_platform_of_series described running
      (series_of_firstSets first (List.forall_mem_nil _) sets letter)
  · intro raw noFirst sets letter
    exact exists_platform_of_series described running
      (series_of_firstSets second (List.forall_mem_singleton.2 noFirst) sets letter)

/-- The description of an older release, with a comment and lines that set nothing. -/
def trustyText : String :=
  "# Trusty\n\nNAME\n VERSION_CODENAME=\"\"\nVERSION=\"14.04.5 LTS, Trusty Tahr\" \nVERSION=9\n"

def trustyTree : FileTree :=
  [(["etc"], .directory), (["etc", "os-release"], .file (Utf8.encode trustyText)),
    (["proc"], .directory), (["proc", "sys"], .directory), (["proc", "sys", "kernel"], .directory),
    (["proc", "sys", "kernel", "osrelease"], .file (Utf8.encode "3.13.0"))]

def trustyVersion : OldVersion where
  numbers := ["14".toList, "04".toList, "5".toList]
  longTerm := true
  comma := true
  parenthesis := false
  name := "Trusty".toList
  rest := " Tahr".toList
  two_le_numbers := by decide
  digits := by decide
  name_ne_nil := by decide
  letters := by decide
  stops := by
    intro c mem
    obtain rfl := Option.some.inj mem
    decide
  marked := by decide

theorem series_of_description_trusty :
    ∃ platform, (Machine.mk "/" "/data" "x86_64" []).platform trustyTree = .ok platform ∧
      platform.series = "trusty" := by
  have described : trustyTree.read (PathText.names
      ((Machine.mk "/" "/data" "x86_64" []).systemPath "etc/os-release")) =
        .ok (Utf8.encode trustyText) := by decide +kernel
  have running : trustyTree.read (PathText.names
      ((Machine.mk "/" "/data" "x86_64" []).systemPath "proc/sys/kernel/osrelease")) =
        .ok (Utf8.encode "3.13.0") := by decide +kernel
  have lines : linesOf trustyText = ["# Trusty".toList, "".toList, "NAME".toList,
      " VERSION_CODENAME=\"\"".toList, "VERSION=\"14.04.5 LTS, Trusty Tahr\" ".toList,
      "VERSION=9".toList, "".toList] := by decide
  have other {line : List Char} (h : (assignment? line).map Prod.fst ≠ some "VERSION") :
      ∀ raw, ¬Sets "VERSION" line raw := not_exists.1 (mt (exists_sets_iff isName_version).1 h)
  have sets : FirstSets "VERSION" (linesOf trustyText) ('"' :: trustyVersion.chars ++ ['"']) := by
    rw [lines]
    exact .behind (other (by decide)) (.behind (other (by decide)) (.behind (other (by decide))
      (.behind (other (by decide)) (.here (by decide)))))
  have without {field : String} (among : field ∈ codenameFields)
      (empty : (ofText trustyText).value field = "") : LeavesOut field (linesOf trustyText) :=
    (value_eq_empty_iff (isName_codename among)).1 empty
  have told := series_of_description (readText_of_read described) (readText_of_read running)
  exact told.1 trustyVersion (without (by decide) (by decide)) (without (by decide) (by decide))
    sets

end Machine

end Subscription
