import CourseFiles.Proofs.Url.Forms
import CourseFiles.Settings.Basic
import Mathlib.Data.List.TakeWhile

namespace CourseFiles

-- Between blanks, a text that is trimmed is the same.
theorem Text.trimmed_padded {front back : String} (s : String) (before : ∀ c ∈ front.toList, isBlank c = true)
    (behind : ∀ c ∈ back.toList, isBlank c = true) : trimmed (front ++ s ++ back) = trimmed s := by
  have ends : back.toList.dropWhile isBlank = [] := List.dropWhile_eq_nil_iff.mpr behind
  have turned : ∀ c ∈ back.toList.reverse, isBlank c = true := fun c here => behind c (List.mem_reverse.mp here)
  have starts : (front ++ s ++ back).toList.dropWhile isBlank = (s.toList ++ back.toList).dropWhile isBlank := by
    rw [String.toList_append, String.toList_append, List.append_assoc, List.dropWhile_append_of_pos before]
  rw [trimmed, trimmed, starts, List.dropWhile_append]
  split
  · rename_i blank
    rw [ends, List.isEmpty_iff.mp blank]
  · rw [List.reverse_append, List.dropWhile_append_of_pos turned]

theorem Text.mem_trimmed {s : String} (here : c ∈ (trimmed s).toList) : c ∈ s.toList := by
  rw [trimmed, String.toList_ofList, List.mem_reverse] at here
  exact (List.dropWhile_sublist _).subset (List.mem_reverse.mp ((List.dropWhile_sublist _).subset here))

-- What follows without a mark belongs to the last part.
theorem Form.split_extended {mark : Char} {r : List Char} (q : List Char) (unparted : mark ∉ r) :
    ∃ parts last, split mark (q ++ r) = parts ++ [last ++ r] := by
  induction q with
  | nil => exact ⟨[], [], split_unparted unparted⟩
  | cons c q ih =>
    obtain ⟨parts, last, same⟩ := ih
    rw [List.cons_append, split, same]
    split
    · exact ⟨[] :: parts, last, rfl⟩
    · cases parts with
      | nil => exact ⟨[], c :: last, rfl⟩
      | cons part parts => exact ⟨(c :: part) :: parts, last, rfl⟩

namespace Paths

variable {home stem left right path : String}

def Rooted (path : String) : Prop := path.toList.head? = some '/'

instance : Decidable (Rooted path) := inferInstanceAs (Decidable (_ = _))

-- A path goes from name to name; neither an empty one nor a single dot leads anywhere.
def leads (name : List Char) : Bool := name ≠ [] && name ≠ ['.']

def names (path : String) : List (List Char) := (Form.split '/' path.toList).filter leads

def parent : List Char := ['.', '.']

-- The file is in the directory itself.
def Inside (file directory : String) : Prop :=
  (Rooted file ↔ Rooted directory) ∧ ∃ name ≠ parent, names file = names directory ++ [name]

theorem join_rooted (rooted : Rooted right) : join left right = right := if_pos rooted

-- There is a slash at the end of the first path or one between the two, unless the first is empty.
theorem join_cases (left : String) (loose : ¬ Rooted right) :
    left = "" ∧ join left right = right ∨
    ∃ l, (left.toList = l ∧ l ≠ [] ∨ left.toList = l ++ ['/']) ∧
      (join left right).toList = l ++ '/' :: right.toList := by
  have apart : join left right =
      if left.toList.getLast?.all (· = '/') then left ++ right else left ++ "/" ++ right := if_neg loose
  rw [apart]
  cases last : left.toList.getLast? with
  | none =>
    have empty : left = "" := String.toList_eq_nil_iff.mp (List.getLast?_eq_none_iff.mp last)
    subst empty
    exact .inl ⟨rfl, by simp⟩
  | some c =>
    right
    obtain ⟨l, same⟩ := List.getLast?_eq_some_iff.mp last
    by_cases slash : c = '/'
    · subst slash
      exact ⟨l, .inr same, by simp [same]⟩
    · exact ⟨left.toList, .inl ⟨rfl, by simp [same]⟩, by simp [slash]⟩

theorem names_join (loose : ¬ Rooted right) : names (join left right) = names left ++ names right := by
  rcases join_cases left loose with ⟨rfl, same⟩ | ⟨l, first, same⟩
  · rw [same]
    rfl
  · have here : names left = (Form.split '/' l).filter leads := by
      rcases first with ⟨first, -⟩ | first
      · rw [names, first]
      · rw [names, first, Form.split_append, List.filter_append]
        exact List.append_nil _
    rw [names, same, Form.split_append, List.filter_append, here]
    rfl

theorem rooted_join (loose : ¬ Rooted right) : Rooted (join left right) ↔ Rooted left := by
  rcases join_cases left loose with ⟨rfl, same⟩ | ⟨l, first, same⟩
  · rw [same]
    exact iff_of_false loose (by decide)
  · rcases first with ⟨first, some⟩ | first
    · rw [Rooted, Rooted, same, first, List.head?_append, Option.or_of_isSome (List.isSome_head?.mpr some)]
    · rw [Rooted, Rooted, same, first, List.head?_append, List.head?_append]
      rfl

def extension : List Char := ".log".toList

-- The name under which the log is looked for in the directory of the logs.
def logName (stem : String) : String :=
  (if (Text.trimmed stem).isEmpty then standardStem else Text.trimmed stem) ++ ".log"

theorem log_join : log home stem = join (logDirectory home) (logName stem) := rfl

-- The last name ends in the extension, so that it is neither a lone dot nor the parent.
theorem names_logName (stem : String) : ∃ before name, names (logName stem) = before ++ [name ++ extension] := by
  have unparted : '/' ∉ extension := by decide
  obtain ⟨parts, last, same⟩ := Form.split_extended
    (if (Text.trimmed stem).isEmpty then standardStem else Text.trimmed stem).toList unparted
  have leading : leads (last ++ extension) = true := by
    cases last with
    | nil => rfl
    | cons c last => simp [leads, extension]
  refine ⟨parts.filter leads, last, ?_⟩
  rw [names, logName, String.toList_append]
  show (Form.split '/' (_ ++ extension)).filter leads = _
  rw [same, List.filter_append, List.filter_cons_of_pos leading, List.filter_nil]

theorem extension_ne_parent (name : List Char) : name ++ extension ≠ parent := by
  intro same
  have long := congrArg List.length same
  simp [extension, parent] at long

theorem names_log (home stem : String) : ∃ before name, names (log home stem) = before ++ [name ++ extension] := by
  obtain ⟨before, name, same⟩ := names_logName stem
  rw [log_join]
  by_cases rooted : Rooted (logName stem)
  · exact ⟨before, name, by rw [join_rooted rooted, same]⟩
  · exact ⟨names (logDirectory home) ++ before, name, by rw [names_join rooted, same, List.append_assoc]⟩

theorem inside_single (loose : ¬ Rooted (logName stem)) :
    Inside (log home stem) (logDirectory home) ↔ (names (logName stem)).length = 1 := by
  rw [Inside, log_join, rooted_join loose, names_join loose]
  constructor
  · intro inside
    obtain ⟨-, name, -, same⟩ := inside
    rw [List.append_cancel_left same]
    rfl
  · intro single
    obtain ⟨before, name, same⟩ := names_logName stem
    rw [same, List.length_append, List.length_singleton, Nat.add_eq_right, List.length_eq_zero_iff] at single
    exact ⟨Iff.rfl, _, extension_ne_parent name, by rw [same, single]; rfl⟩

theorem logName_unparted (unparted : '/' ∉ stem.toList) : '/' ∉ (logName stem).toList := by
  rw [logName, String.toList_append, List.mem_append]
  intro here
  rcases here with here | here
  · split at here
    · exact absurd here (by decide)
    · exact unparted (Text.mem_trimmed here)
  · exact absurd here (by decide)

theorem unparted_loose (unparted : '/' ∉ path.toList) : ¬ Rooted path :=
  fun rooted => unparted (List.mem_of_head? rooted)

theorem unparted_inside (unparted : '/' ∉ stem.toList) : Inside (log home stem) (logDirectory home) := by
  have unparted := logName_unparted unparted
  refine (inside_single (unparted_loose unparted)).mpr (Nat.le_antisymm ?_ ?_)
  · rw [names, Form.split_unparted unparted]
    exact List.length_filter_le _ _
  · obtain ⟨before, name, same⟩ := names_logName stem
    simp [same]

theorem log_padded {front back : String} (before : ∀ c ∈ front.toList, Text.isBlank c = true)
    (behind : ∀ c ∈ back.toList, Text.isBlank c = true) : log home (front ++ stem ++ back) = log home stem := by
  rw [log, log, Text.trimmed_padded stem before behind]

-- A log is named as one; it lies in the directory of the logs if its name is that of one file, and blanks around the
-- name do not matter.
theorem log_is_placed (home stem : String) :
    (∃ before name, names (log home stem) = before ++ [name ++ extension]) ∧
    ('/' ∉ stem.toList → Inside (log home stem) (logDirectory home)) ∧
    (¬ Rooted (logName stem) →
      (Inside (log home stem) (logDirectory home) ↔ (names (logName stem)).length = 1)) ∧
    (Rooted (logName stem) → log home stem = logName stem) ∧
    ∀ front back : String, (∀ c ∈ front.toList, Text.isBlank c = true) → (∀ c ∈ back.toList, Text.isBlank c = true) →
      log home (front ++ stem ++ back) = log home stem :=
  ⟨names_log home stem, unparted_inside, inside_single, join_rooted, fun _ _ before behind => log_padded before behind⟩

theorem course_is_placed :
    '/' ∉ "course".toList ∧ Inside (log "/home/u" "course") (logDirectory "/home/u") ∧
      log "/home/u" (" " ++ "course" ++ "\u2003\n") = log "/home/u" "course" ∧
      ¬ Rooted (logName "./course") ∧ Inside (log "/home/u" "./course") (logDirectory "/home/u") ∧
      Rooted (logName "/etc/course") ∧ log "/home/u" "/etc/course" = "/etc/course.log" := by
  obtain ⟨-, plain, -, -, padded⟩ := log_is_placed "/home/u" "course"
  obtain ⟨-, -, dotted, -, -⟩ := log_is_placed "/home/u" "./course"
  obtain ⟨-, -, -, rooted, -⟩ := log_is_placed "/home/u" "/etc/course"
  have unparted : '/' ∉ "course".toList := by decide
  have loose : ¬ Rooted (logName "./course") := by decide
  have root : Rooted (logName "/etc/course") := by decide
  refine ⟨unparted, plain unparted, padded " " "\u2003\n" (List.all_eq_true.mp rfl) (List.all_eq_true.mp rfl), loose,
    (dotted loose).mpr (by decide), root, ?_⟩
  rw [rooted root]
  decide

def leaving : Settings := { Settings.standard with logStem := "../course" }

-- Settings that are in order can put the log elsewhere.
theorem leaving_goes_astray :
    (Settings.load (.content (Utf8.encode "\x7b\"logFileStem\":\"../course\"\x7d".toList))).toOption = some leaving ∧
      ¬ Inside (leaving.logPath "/home/u") (logDirectory "/home/u") ∧
      ¬ Inside (log "/home/u" "/etc/course") (logDirectory "/home/u") := by
  have above : (names (leaving.logPath "/home/u")).length ≠ (names (logDirectory "/home/u")).length + 1 := by decide
  have elsewhere : (names (log "/home/u" "/etc/course")).length ≠ (names (logDirectory "/home/u")).length + 1 := by
    decide
  have one {file directory : String} (inside : Inside file directory) :
      (names file).length = (names directory).length + 1 := by
    obtain ⟨-, name, -, same⟩ := inside
    rw [same, List.length_append, List.length_singleton]
  exact ⟨by decide +kernel, fun inside => above (one inside), fun inside => elsewhere (one inside)⟩

end Paths
end CourseFiles
