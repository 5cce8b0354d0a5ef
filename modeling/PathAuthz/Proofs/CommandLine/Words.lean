/-
  PathAuthz.Proofs.CommandLine.Words — command lines written word by word.

  (1) An option is written with its value behind an equals sign, a switch by its name alone, and
  an operand behind `--`, where it may be any word at all.

  (2) `scan` takes each of them and goes on with the words behind it (`scan_valueWords`,
  `scan_switchWords`, `scan_operandWords`).

  (3) So every call of `accessof` can be written, whatever its options are: its words are read
  back as that call (`parse_accessOfWords`).
-/

import Mathlib.Data.List.TakeWhile
import PathAuthz.CommandLine

namespace PathAuthz.CommandLine

/-! ## (1) Words -/

def valueWord (name value : String) : String := "--" ++ name ++ "=" ++ value

def switchWord (name : String) : String := "--" ++ name

/-- The word of an option that may be absent. -/
def valueWords (name : String) (value : Option String) : List String := (value.map (valueWord name)).toList

def switchWords (name : String) (on : Bool) : List String := if on then [switchWord name] else []

def operandWords (operand : Option String) : List String := (operand.map fun v => ["--", v]).getD []

/-- The words behind `accessof`. -/
def accessOfWords (settings rulesFile groupsFile repo path user : Option String) (recursive : Bool)
    (expected : Option Access) : List String :=
  valueWords "config" settings ++ (valueWords "groups-file" groupsFile ++ (valueWords "repository" repo ++
    (valueWords "path" path ++ (valueWords "username" user ++ (switchWords "recursive" recursive ++
      (valueWords "is" (expected.map Access.label) ++ operandWords rulesFile))))))

namespace Found

/-- What is found with one more option, if it is given. -/
def withValue (f : Found) (name : String) (value : Option String) : Found :=
  { f with values := (value.map (name, ·)).toList ++ f.values }

def withSwitch (f : Found) (name : String) (on : Bool) : Found :=
  { f with switches := if on then name :: f.switches else f.switches }

def withOperand (f : Found) (operand : Option String) : Found := { f with operand := operand }

variable (f : Found) (name other : String) (value operand : Option String) (on : Bool)

@[simp] theorem value?_empty : empty.value? name = none := rfl

@[simp] theorem has_empty : empty.has name = false := rfl

@[simp] theorem operand_empty : empty.operand = none := rfl

@[simp] theorem value?_withValue :
    (f.withValue name value).value? other = if other = name then value.or (f.value? other) else f.value? other := by
  cases value with
  | none => simp [withValue, value?]
  | some v =>
    by_cases h : other = name
    · simp [withValue, value?, h]
    · have hb : (other == name) = false := beq_eq_false_iff_ne.2 h
      simp [withValue, value?, List.lookup_cons, hb, h]

@[simp] theorem has_withValue : (f.withValue name value).has other = f.has other := rfl

@[simp] theorem operand_withValue : (f.withValue name value).operand = f.operand := rfl

@[simp] theorem value?_withSwitch : (f.withSwitch name on).value? other = f.value? other := rfl

@[simp] theorem has_withSwitch : (f.withSwitch name on).has other = (on && other == name || f.has other) := by
  cases on with
  | false => rfl
  | true => simp [withSwitch, has, Bool.beq_eq_decide_eq]

@[simp] theorem operand_withSwitch : (f.withSwitch name on).operand = f.operand := rfl

@[simp] theorem value?_withOperand : (f.withOperand operand).value? other = f.value? other := rfl

@[simp] theorem has_withOperand : (f.withOperand operand).has other = f.has other := rfl

@[simp] theorem operand_withOperand : (f.withOperand operand).operand = operand := rfl

end Found

/-! ## (2) Taking words -/

variable {specs : List OptionSpec} {stops : Bool} {f : Found} {name : String} {letter : Option Char}

theorem toList_valueWord (name value : String) :
    (valueWord name value).toList = '-' :: '-' :: (name.toList ++ '=' :: value.toList) := by
  simp [valueWord]

theorem toList_switchWord (name : String) : (switchWord name).toList = '-' :: '-' :: name.toList := by
  simp [switchWord]

/-- A word that starts with two hyphens and goes on is an option. -/
theorem scan_option {word : String} {c : Char} {cs : List Char} (hword : word.toList = '-' :: '-' :: c :: cs)
    {found : Found} (htake : takeLong specs f (c :: cs) = .done found) (rest : List String) :
    scan specs stops f (word :: rest) = scan specs stops found rest := by
  have hlone : word ≠ "--" := by
    rintro rfl
    cases hword
  have hdash : word ≠ "-" := by
    rintro rfl
    cases hword
  have hoption : isValueWord word = false := by simp [isValueWord, hdash, hword]
  rw [scan, if_neg hlone, hoption, if_neg Bool.false_ne_true, hword, takeOption, htake]

section

variable (hname : '=' ∉ name.toList)

include hname

theorem ne_equals_of_mem : ∀ c ∈ name.toList, decide (c ≠ '=') = true :=
  fun _ hc => decide_eq_true fun he => hname (he ▸ hc)

theorem cutLong_value (value : List Char) : cutLong (name.toList ++ '=' :: value) = (name, some (String.ofList value)) := by
  rw [cutLong, List.dropWhile_append_of_pos (ne_equals_of_mem hname), List.dropWhile_cons_of_neg (by simp),
    List.takeWhile_append_of_pos (ne_equals_of_mem hname), List.takeWhile_cons_of_neg (by simp)]
  simp

theorem cutLong_alone : cutLong name.toList = (name, none) := by
  rw [cutLong, List.dropWhile_eq_nil_iff.2 (ne_equals_of_mem hname)]
  simp

end

theorem scan_valueWords {key : String} {test : String → Bool} {value : Option String}
    (hspec : specs.find? (·.name == name) = some ⟨key, letter, .value test⟩) (hname : '=' ∉ name.toList)
    (hfresh : f.value? name = none) (htest : ∀ v ∈ value, test v = true) (rest : List String) :
    scan specs stops f (valueWords name value ++ rest) = scan specs stops (f.withValue name value) rest := by
  cases value with
  | none => rfl
  | some v =>
    have htake : takeLong specs f (name.toList ++ '=' :: v.toList) = .done (f.withValue name (some v)) := by
      have hadd : f.addValue name test v = .ok (f.withValue name (some v)) := by
        simp [Found.addValue, hfresh, htest v rfl, Found.withValue]
      simp only [takeLong, cutLong_value hname, hspec, String.ofList_toList, hadd, Taken.of]
    obtain ⟨c, cs, hcs⟩ : ∃ c cs, name.toList ++ '=' :: v.toList = c :: cs :=
      List.exists_cons_of_ne_nil (by simp)
    rw [hcs] at htake
    exact scan_option (by rw [toList_valueWord, hcs]) htake rest

theorem scan_switchWords {key : String} {on : Bool} (hspec : specs.find? (·.name == name) = some ⟨key, letter, .switch⟩)
    (hname : '=' ∉ name.toList) (hne : name ≠ "") (hfresh : f.has name = false) (rest : List String) :
    scan specs stops f (switchWords name on ++ rest) = scan specs stops (f.withSwitch name on) rest := by
  cases on with
  | false => rfl
  | true =>
    have htake : takeLong specs f name.toList = .done (f.withSwitch name true) := by
      have hadd : f.addSwitch name = .ok (f.withSwitch name true) := by simp [Found.addSwitch, hfresh, Found.withSwitch]
      simp only [takeLong, cutLong_alone hname, hspec, hadd, Taken.of]
    -- Without a name the word would be the `--` that ends the options.
    obtain ⟨c, cs, hcs⟩ : ∃ c cs, name.toList = c :: cs := List.exists_cons_of_ne_nil (by simpa using hne)
    rw [hcs] at htake
    exact scan_option (by rw [toList_switchWord, hcs]) htake rest

theorem scan_operandWords (hfresh : f.operand = none) (operand : Option String) :
    scan specs false f (operandWords operand) = .ok (f.withOperand operand, []) := by
  cases operand with
  | none =>
    have hsame : f.withOperand none = f := by rw [← hfresh]; rfl
    rw [hsame]
    rfl
  | some v =>
    have hadd : f.addOperand v = .ok (f.withOperand (some v)) := by simp [Found.addOperand, hfresh, Found.withOperand]
    have hwords : operandWords (some v) = ["--", v] := rfl
    rw [hwords, scan, if_pos rfl, if_neg Bool.false_ne_true, List.foldlM_cons, hadd]
    rfl

/-! ## (3) Calls -/

/-- A command and the words behind it, without common options in front. -/
theorem parse_command {settings : Option String} {command : String} {words : List String} {own : Found}
    (hword : isValueWord command = true) (hhelp : command ≠ "help") (hspecs : optionsOf? command = some specs)
    (hscan : scan specs false .empty words = .ok (own, [])) :
    parse settings (command :: words) =
      .ok ⟨(own.value? "config").or settings, own.operand, own.value? "groups-file", commandOf command own⟩ := by
  have hlone : command ≠ "--" := by
    rintro rfl
    cases hword
  have hstop : scan rootOptions true .empty (command :: words) = .ok (.empty, command :: words) := by
    rw [scan, if_neg hlone, if_pos hword, if_pos rfl]
  rw [parse, hstop]
  simp only [bind, Except.bind, if_neg hhelp, hspecs, hscan]
  rfl

section

variable (settings rulesFile groupsFile repo path user : Option String) (recursive : Bool) (expected : Option Access)

/-- What is found among the words of a call. -/
def accessOfFound : Found :=
  (((((((Found.empty.withValue "config" settings).withValue "groups-file" groupsFile).withValue "repository" repo).withValue
    "path" path).withValue "username" user).withSwitch "recursive" recursive).withValue
      "is" (expected.map Access.label)).withOperand rulesFile

theorem scan_accessOfWords (hspecs : optionsOf? "accessof" = some specs) :
    scan specs false .empty (accessOfWords settings rulesFile groupsFile repo path user recursive expected) =
      .ok (accessOfFound settings rulesFile groupsFile repo path user recursive expected, []) := by
  cases hspecs
  have hlabel : ∀ v ∈ expected.map Access.label, (Access.ofLabel v).isSome = true := by
    intro v hv
    obtain ⟨a, -, rfl⟩ := Option.map_eq_some_iff.1 hv
    rw [Access.ofLabel_label, Option.isSome_some]
  rw [accessOfWords, scan_valueWords rfl (by decide) (by simp) (fun _ _ => rfl),
    scan_valueWords rfl (by decide) (by simp) (fun _ _ => rfl), scan_valueWords rfl (by decide) (by simp) (fun _ _ => rfl),
    scan_valueWords rfl (by decide) (by simp) (fun _ _ => rfl), scan_valueWords rfl (by decide) (by simp) (fun _ _ => rfl),
    scan_switchWords rfl (by decide) (by decide) (by simp), scan_valueWords rfl (by decide) (by simp) hlabel,
    scan_operandWords (by simp)]
  rfl

theorem commandOf_accessOfFound :
    commandOf "accessof" (accessOfFound settings rulesFile groupsFile repo path user recursive expected) =
      .accessOf repo path user recursive expected := by
  have hexpected : (expected.map Access.label).bind Access.ofLabel = expected := by
    cases expected with
    | none => rfl
    | some a => exact Access.ofLabel_label a
  simp [commandOf, accessOfFound, hexpected]

end

/-- Every call of `accessof` can be written, if the environment does not name a settings file that the call
    does without. -/
theorem parse_accessOfWords {i : Invocation} {repo path user : Option String} {recursive : Bool} {expected : Option Access}
    (h : i.command = .accessOf repo path user recursive expected) {settings : Option String}
    (hsettings : i.settings = none → settings = none) :
    parse settings ("accessof" :: accessOfWords i.settings i.rulesFile i.groupsFile repo path user recursive expected) =
      .ok i := by
  have hgiven : i.settings.or settings = i.settings := by
    cases hi : i.settings with
    | none => exact hsettings hi
    | some path => rfl
  have hscan := scan_accessOfWords i.settings i.rulesFile i.groupsFile repo path user recursive expected rfl
  rw [parse_command (by decide) (by decide) rfl hscan, commandOf_accessOfFound, ← h]
  simp [accessOfFound, hgiven]

end PathAuthz.CommandLine
