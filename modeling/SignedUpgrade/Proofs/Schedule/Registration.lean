import SignedUpgrade.Proofs.Script.ArgumentLine
import SignedUpgrade.Proofs.Script.Injection

/-!
# What a registered task runs

The path of the updater goes through three hands before the updater is run.  The shell that
registers the task reads a literal, Windows cuts what stands in it into arguments, and the task's
shell reads a literal in one of the arguments.  Each of them takes away what was put around the path
for it, and nothing else.

* `behind?`, `argumentAfter?` — how the places are found;
* `literal_of_createScript` — the first literal of the script is the argument line;
* `arguments_of_argument` — the argument line is cut into the shell's options and the command;
* `literal_of_innerCommand` — the literal of the command is the path;
* `createScript_unwinds` — **the three readings together give back the path**.
-/

namespace SignedUpgrade

open Text Quoted ArgumentLine

/-- What stands behind the first occurrence of a word. -/
def behind? (word : List Char) : List Char → Option (List Char)
  | [] => none
  | c :: r =>
    if word.isPrefixOf (c :: r) then some ((c :: r).drop word.length) else behind? word r

/-- The argument behind the first one that is a given word. -/
def argumentAfter? (word : List Char) (arguments : List (List Char)) : Option (List Char) :=
  (arguments.dropWhile (· ≠ word))[1]?

namespace ScheduledTask

variable {task : ScheduledTask}

/-! ## The first reading: the literal in the script -/

/-- The script up to the word that announces the argument line. -/
def createStart : List Char :=
  "$action = New-ScheduledTaskAction -Execute 'Powershell.exe' -Argument ".toList

/-- The words that announce the argument line stand at the end of the script's start, and nowhere
before. -/
lemma behind?_createStart (rest : List Char) :
    behind? "-Argument ".toList (createStart ++ rest) = some rest := by
  rfl

/-- The beginning of a text decides whether it goes on with a quote. -/
lemma unquoted_append {s : String} {c : Char} {cs : List Char} (spelled : s.toList = c :: cs)
    (plain : isQuote c = false) (rest : List Char) : Unquoted (s.toList ++ rest) := by
  rw [spelled]
  exact unquoted_cons.2 plain

-- the text behind the literal is spelled out to its end
set_option maxRecDepth 2000 in
/-- The first literal of the script is the argument line, and what follows it is no quote. -/
lemma toList_createScript (task : ScheduledTask) : ∃ rest, Unquoted rest
    ∧ task.createScript.toList = createStart ++ (quoteChars task.argument.toList ++ rest) := by
  unfold createScript
  rw [regroup]
  refine ⟨_, And.symm ⟨toList_around rfl rfl, ?_⟩⟩
  simp only [String.toList_append, List.append_assoc]
  exact unquoted_append String.toList_ofList rfl _

/-- The literal behind these words is the argument line, if the apostrophe is the only quote of the
path. -/
lemma literal_of_createScript (straight : Straight task.updater.text.toList) :
    ∃ registering behind, behind? "-Argument ".toList task.createScript.toList = some registering
      ∧ readLiteral registering = some (task.argument.toList, behind) := by
  obtain ⟨rest, unquoted, spelled⟩ := toList_createScript task
  refine ⟨_, rest, ?_, (readLiteral_quoteChars_iff unquoted).2 ?_⟩
  · rw [spelled]
    exact behind?_createStart _
  · exact (argument_iff task.wording task.updater.text).1.2 straight

/-! ## The second reading: the arguments of the task's shell -/

/-- The arguments in front of the command. -/
def shellOptions : List (List Char) :=
  ["-NoProfile".toList, "-WindowStyle".toList, "Hidden".toList, "-Command".toList]

/-- The command is a literal between two texts. -/
lemma toList_innerCommand (task : ScheduledTask) : task.innerCommand.toList
    = "certbot renew; & ".toList ++ (quoteChars task.updater.text.toList ++ " run".toList) :=
  toList_around rfl rfl

/-- The argument line is the options, with a blank behind each of them, and the command between
marks. -/
lemma toList_argument (task : ScheduledTask) : task.argument.toList
    = shellOptions.flatMap (· ++ [' ']) ++ mark :: (task.innerCommand.toList ++ [mark]) := by
  have parts : task.argument.toList = "-NoProfile -WindowStyle Hidden -Command \"".toList
      ++ task.innerCommand.toList ++ "\"".toList := toList_append_eq (toList_append_eq rfl rfl) rfl
  have start : "-NoProfile -WindowStyle Hidden -Command \"".toList
      = shellOptions.flatMap (· ++ [' ']) ++ [mark] := by decide +kernel
  have ending : "\"".toList = [mark] := rfl
  rw [parts, start, ending, List.append_assoc, List.append_assoc, List.singleton_append]

/-- The command between marks is one argument, if the path has no marks.  Its backslashes stay as
they are, since the last of them stands in front of the end of the literal. -/
lemma cut_innerCommand (unmarked : mark ∉ task.updater.text.toList) :
    cut .outside none 0 (mark :: (task.innerCommand.toList ++ [mark]))
      = [task.innerCommand.toList] := by
  have ends : task.innerCommand.toList
      = "certbot renew; & ".toList ++ (quoteChars task.updater.text.toList ++ " ru".toList)
        ++ ['n'] := by
    rw [toList_innerCommand, List.append_assoc, List.append_assoc]
    rfl
  rw [ends, List.append_assoc, List.singleton_append]
  refine cut_marked ?_ (by decide) (by decide)
  have doubled : mark ∉ double task.updater.text.toList := mt mem_double.1 unmarked
  simp only [quoteChars, List.mem_append, List.mem_cons, not_or]
  refine ⟨by decide, ⟨⟨by decide, doubled⟩, by decide⟩, by decide⟩

/-- The argument line is cut into the options and the command, be it behind the name of a program or
not. -/
lemma arguments_of_argument (unmarked : mark ∉ task.updater.text.toList) :
    argumentsOf task.argument.toList = shellOptions ++ [task.innerCommand.toList]
      ∧ argumentsOf ("Powershell.exe ".toList ++ task.argument.toList)
        = "Powershell.exe".toList :: (shellOptions ++ [task.innerCommand.toList]) := by
  have options : ∀ w ∈ "Powershell.exe".toList :: shellOptions, IsPlainWord w := by
    decide +kernel
  rw [toList_argument, ← cut_innerCommand unmarked]
  exact ⟨argumentsOf_words fun w mem => options w (List.mem_cons_of_mem _ mem),
    argumentsOf_words options⟩

/-! ## The three readings -/

/-- The literal of the command is the path, if the apostrophe is the only quote of the path. -/
lemma literal_of_innerCommand (straight : Straight task.updater.text.toList) :
    readLiteral (quoteChars task.updater.text.toList ++ " run".toList)
      = some (task.updater.text.toList, " run".toList) :=
  (readLiteral_quoteChars_iff (by decide)).2 straight

/-- **What is registered runs the updater at exactly its path.**  Let the apostrophe be the only
quote of the path, and let it have no quotation mark.  Then the literal behind `-Argument` is a line
that is cut into arguments, with or without the name of the program in front of it, and the argument
behind `-Command` is a command in which the literal of the updater is read as the path, with `run`
behind it. -/
theorem createScript_unwinds (task : ScheduledTask)
    (straight : Straight task.updater.text.toList) (unmarked : mark ∉ task.updater.text.toList) :
    ∃ registering line behind command literal,
      behind? "-Argument ".toList task.createScript.toList = some registering
      ∧ readLiteral registering = some (line, behind)
      ∧ argumentAfter? "-Command".toList (argumentsOf line) = some command
      ∧ argumentsOf line = shellOptions ++ [command]
      ∧ argumentsOf ("Powershell.exe ".toList ++ line)
        = "Powershell.exe".toList :: (shellOptions ++ [command])
      ∧ command = "certbot renew; & ".toList ++ literal
      ∧ readLiteral literal = some (task.updater.text.toList, " run".toList) := by
  obtain ⟨registering, behind, found, read⟩ := literal_of_createScript straight
  obtain ⟨arguments, started⟩ := arguments_of_argument unmarked
  refine ⟨registering, _, behind, _, _, found, read, ?_, arguments, started,
    toList_innerCommand task, literal_of_innerCommand straight⟩
  rw [arguments]
  rfl

/-- A directory with an apostrophe, a dollar sign and an ampersand, and a path that ends with a
backslash. -/
theorem createScript_unwinds_apostrophe :
    let task : ScheduledTask :=
      { updater := ⟨"C:\\O'Neil & Sons\\$bin;\\"⟩, wording := fun _ _ => "no status" }
    Straight task.updater.text.toList ∧ mark ∉ task.updater.text.toList
      ∧ ∃ registering line behind command literal,
        behind? "-Argument ".toList task.createScript.toList = some registering
        ∧ readLiteral registering = some (line, behind)
        ∧ argumentAfter? "-Command".toList (argumentsOf line) = some command
        ∧ argumentsOf line = shellOptions ++ [command]
        ∧ argumentsOf ("Powershell.exe ".toList ++ line)
          = "Powershell.exe".toList :: (shellOptions ++ [command])
        ∧ command = "certbot renew; & ".toList ++ literal
        ∧ readLiteral literal = some (task.updater.text.toList, " run".toList) := by
  intro task
  have straight : Straight task.updater.text.toList := by decide +kernel
  have unmarked : mark ∉ task.updater.text.toList := by decide +kernel
  exact ⟨straight, unmarked, createScript_unwinds task straight unmarked⟩

end ScheduledTask

end SignedUpgrade
