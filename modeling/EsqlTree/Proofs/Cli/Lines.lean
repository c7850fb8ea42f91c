import EsqlTree.Cli.Answer
import EsqlTree.Proofs.Text.Integers
import Mathlib.Data.List.Forall2

/-!
# Rows are told from their lines

Text output escapes nothing. A name stands in its line as it is, set off by blanks and colons that
names may hold as well, and a name may read like the beginning of another line. The rows are told
from the text all the same, as long as no name goes on over a line feed. The text falls apart at its
line feeds, and each line at a mark that one side of it cannot hold: the lines of commands and of
functions at the last such mark, those of events at the first.
-/

namespace EsqlTree

namespace Text

section

variable {mark : Char} {first second front back : List Char}

/-- What stands before the first mark of a text is told from the text, and so is what follows. -/
theorem append_cons_inj_of_first (inFirst : mark ∉ first) (inSecond : mark ∉ second)
    (same : first ++ mark :: front = second ++ mark :: back) : first = second ∧ front = back := by
  induction first generalizing second with
  | nil =>
    cases second with
    | nil => exact ⟨rfl, (List.cons.inj same).2⟩
    | cons c others =>
      obtain ⟨rfl, _⟩ := List.cons.inj same
      exact absurd List.mem_cons_self inSecond
  | cons c others inOthers =>
    cases second with
    | nil =>
      obtain ⟨rfl, _⟩ := List.cons.inj same
      exact absurd List.mem_cons_self inFirst
    | cons d rest =>
      obtain ⟨rfl, behind⟩ := List.cons.inj same
      obtain ⟨rfl, rests⟩ := inOthers (fun held => inFirst (List.mem_cons_of_mem c held))
        (fun held => inSecond (List.mem_cons_of_mem c held)) behind
      exact ⟨rfl, rests⟩

/-- What follows the last mark of a text is told from the text, and so is what stands before. Read
backwards, the last mark is the first. -/
theorem append_cons_inj_of_last (inFront : mark ∉ front) (inBack : mark ∉ back)
    (same : first ++ mark :: front = second ++ mark :: back) : first = second ∧ front = back := by
  have reversed :
      front.reverse ++ mark :: first.reverse = back.reverse ++ mark :: second.reverse := by
    simpa using congrArg List.reverse same
  obtain ⟨rests, texts⟩ := append_cons_inj_of_first (fun held => inFront (List.mem_reverse.mp held))
    (fun held => inBack (List.mem_reverse.mp held)) reversed
  exact ⟨List.reverse_injective texts, List.reverse_injective rests⟩

end

/-- A decimal numeral holds nothing but digits, so it holds none of the marks that lines are cut at.
-/
theorem not_mem_decimal {c : Char} (noDigit : c.isDigit = false) (n : Nat) : c ∉ decimal n := by
  intro held
  have whole := (natural?_eq_some_iff.mp (natural?_decimal n)).1
  rw [whole.each c held] at noDigit
  contradiction

/-- Numbers are told from their decimal numerals, which are read back as them. -/
theorem decimal_injective : Function.Injective decimal := by
  intro m n same
  have read := natural?_decimal m
  rw [same, natural?_decimal n] at read
  exact (Option.some.inj read).symm

/-- True of a text that stays on one line. -/
def OneLine (text : String) : Prop := '\n' ∉ text.toList

instance (text : String) : Decidable (OneLine text) :=
  inferInstanceAs (Decidable ('\n' ∉ text.toList))

/-- Two texts behind each other stay on one line exactly if each does. -/
@[simp] theorem oneLine_append (front back : String) :
    OneLine (front ++ back) ↔ OneLine front ∧ OneLine back := by
  simp [OneLine]

/-- A decimal numeral stays on one line, as a line feed is no digit. -/
@[simp] theorem oneLine_decimal (n : Nat) : OneLine (String.ofList (decimal n)) := by
  simpa [OneLine] using not_mem_decimal (by decide) n

end Text

open Text (OneLine decimal)

namespace Cli

/-- Lines are told from their text. The induction is on the lines, of which the first ends at the
first line feed. -/
theorem textLines_inj {first second : List String} (firstLines : ∀ line ∈ first, OneLine line)
    (secondLines : ∀ line ∈ second, OneLine line) (same : textLines first = textLines second) :
    first = second := by
  induction first generalizing second with
  | nil =>
    cases second with
    | nil => rfl
    | cons line others => simp at same
  | cons line others inOthers =>
    cases second with
    | nil => simp at same
    | cons other rest =>
      have texts : line.toList ++ '\n' :: (textLines others).toList =
          other.toList ++ '\n' :: (textLines rest).toList := by
        simpa using congrArg String.toList same
      rw [List.forall_mem_cons] at firstLines secondLines
      obtain ⟨lines, rests⟩ := Text.append_cons_inj_of_first firstLines.1 secondLines.1 texts
      rw [String.toList_injective lines,
        inOthers firstLines.2 secondLines.2 (String.toList_injective rests)]

/-- The text of some lines has one line feed for each of them, at its end and nowhere else. -/
theorem count_textLines {lines : List String} (each : ∀ line ∈ lines, OneLine line) :
    (textLines lines).toList.count '\n' = lines.length := by
  induction lines with
  | nil => simp
  | cons line others inOthers =>
    rw [List.forall_mem_cons] at each
    have none : line.toList.count '\n' = 0 := List.count_eq_zero.mpr each.1
    simp [none, inOthers each.2]

/-- Rows are printed as one text exactly if they are alike one by one, where the line of a row tells
just what rows must have in common to be alike. What is left for each sort of row is to say what its
line tells. -/
theorem rows_text_eq_iff {α : Type} {line : α → String} {row : α → Json.Value}
    {Alike : α → α → Prop} (told : ∀ left right, line left = line right ↔ Alike left right)
    {first second : List α} (lines : ∀ result ∈ first ++ second, OneLine (line result)) :
    rows .text line row first = rows .text line row second ↔ List.Forall₂ Alike first second := by
  have same : (fun left right => line left = line right) = Alike := by
    funext left right
    exact propext (told left right)
  have apart : textLines (first.map line) = textLines (second.map line) ↔
      first.map line = second.map line := by
    rw [List.forall_mem_append] at lines
    constructor
    · exact textLines_inj (List.forall_mem_map.mpr lines.1) (List.forall_mem_map.mpr lines.2)
    · exact congrArg textLines
  rw [rows, rows, apart, ← same, ← List.forall₂_eq_eq_eq, List.forall₂_map_left_iff,
    List.forall₂_map_right_iff]

end Cli

/-- The line of a command tells its name and its location. A location is free of blanks and has
one colon, so it is cut off from the end of the line. -/
theorem Command.line_eq_iff (first second : Command) :
    first.line = second.line ↔ first.name = second.name ∧ first.location = second.location := by
  constructor
  · intro same
    have texts : (first.name.toList ++ ' ' :: decimal first.location.min.toNat) ++
          ':' :: decimal first.location.max.toNat =
        (second.name.toList ++ ' ' :: decimal second.location.min.toNat) ++
          ':' :: decimal second.location.max.toNat := by
      simpa [line] using congrArg String.toList same
    have noColon (n : Nat) : ':' ∉ decimal n := Text.not_mem_decimal (by decide) n
    have noBlank (n : Nat) : ' ' ∉ decimal n := Text.not_mem_decimal (by decide) n
    obtain ⟨fronts, lasts⟩ := Text.append_cons_inj_of_last (noColon _) (noColon _) texts
    obtain ⟨names, firsts⟩ := Text.append_cons_inj_of_last (noBlank _) (noBlank _) fronts
    have min := UInt32.toNat_inj.mp (Text.decimal_injective firsts)
    have max := UInt32.toNat_inj.mp (Text.decimal_injective lasts)
    refine ⟨String.toList_injective names, ?_⟩
    cases left : first.location
    cases right : second.location
    simp_all
  · rintro ⟨names, locations⟩
    rw [line, line, names, locations]

/-- A command whose name stays on one line is shown on one, because nothing else in its line can
hold a line feed. -/
theorem Command.oneLine_line {command : Command} (named : OneLine command.name) :
    OneLine command.line := by
  have marks : OneLine " " ∧ OneLine ":" := by decide
  simp [line, named, marks]

/-- The line of a function in a summary tells its name and whether it was found. What is said of
that holds no blank, so it is cut off from the end of the line. -/
theorem FunctionPresence.line_injective : Function.Injective FunctionPresence.line := by
  intro first second same
  have texts : ("function ".toList ++ first.name.toList ++ [':']) ++
        ' ' :: (if first.found then "found" else "missing").toList =
      ("function ".toList ++ second.name.toList ++ [':']) ++
        ' ' :: (if second.found then "found" else "missing").toList := by
    simpa [line] using congrArg String.toList same
  have noBlank (found : Bool) : ' ' ∉ (if found then "found" else "missing").toList := by
    cases found <;> decide
  obtain ⟨fronts, verdicts⟩ := Text.append_cons_inj_of_last (noBlank _) (noBlank _) texts
  have names : first.name = second.name := String.toList_injective (by simpa using fronts)
  have found : first.found = second.found := by
    cases left : first.found <;> cases right : second.found <;> simp_all
  cases first
  cases second
  simp_all

/-- A function whose name stays on one line is shown on one, because nothing else in its line can
hold a line feed. -/
theorem FunctionPresence.oneLine_line {row : FunctionPresence} (named : OneLine row.name) :
    OneLine row.line := by
  have words : OneLine "function " ∧ OneLine ": " ∧ OneLine "found" ∧ OneLine "missing" := by decide
  cases found : row.found <;> simp [line, named, words, found]

namespace Report

/-- The lines of a summary tell all of it: two counts by their numerals, and the functions line by
line. -/
theorem lines_injective : Function.Injective lines := by
  intro first second same
  obtain ⟨commands, others⟩ := List.cons.inj same
  obtain ⟨params, rows⟩ := List.cons.inj others
  have sameCommands : first.commands = second.commands :=
    Text.decimal_injective (by simpa using congrArg String.toList commands)
  have sameParams : first.params = second.params :=
    Text.decimal_injective (by simpa using congrArg String.toList params)
  have sameRows : first.functions = second.functions :=
    List.map_injective_iff.mpr FunctionPresence.line_injective rows
  cases first
  cases second
  simp_all

/-- A summary of names that stay on one line is shown on lines, as its counts cannot hold a line
feed. -/
theorem oneLine_of_mem_lines {report : Report}
    (named : ∀ row ∈ report.functions, OneLine row.name) : ∀ line ∈ report.lines, OneLine line := by
  have words : OneLine "commands: " ∧ OneLine "params: " := by decide
  have rows : ∀ line ∈ report.functions.map FunctionPresence.line, OneLine line :=
    List.forall_mem_map.mpr fun row among => FunctionPresence.oneLine_line (named row among)
  simpa [lines, words] using rows

end Report

/-- The word with which the lines of a hook begin. -/
def Hook.label : Hook → String
  | .command => Kind.command.tag
  | .option => Kind.option.tag
  | .mode => Kind.mode.tag
  | .single => "single"
  | .source => Kind.source.tag
  | .function => Kind.function.tag
  | .column => Kind.column.tag
  | .literal => Kind.literal.tag
  | .list => Kind.list.tag
  | .timeInterval => Kind.timeInterval.tag
  | .inlineCast => Kind.inlineCast.tag
  | .unclassified => Kind.unknown.tag

/-- A label holds no blank, and stays on one line. There are twelve of them, and each can be looked
at. -/
theorem Hook.label_plain (hook : Hook) : ' ' ∉ hook.label.toList ∧ OneLine hook.label := by
  cases hook <;> decide

/-- No two hooks have one label; in particular, that of all items is the tag of no kind. -/
theorem Hook.label_injective : Function.Injective Hook.label := by
  have listed (hook : Hook) : hook ∈ all := by cases hook <;> decide
  have apart : ∀ first ∈ all, ∀ second ∈ all, first.label = second.label → first = second := by
    decide
  intro first second same
  exact apart first (listed first) second (listed second) same

namespace Event

/-- What the line of an event shows behind its label. -/
def shown : Event → String
  | .single item => item.tag
  | other => other.header.name

/-- The line of an event is its label and what it shows, a blank between them, whatever the event
is. -/
theorem display_eq (event : Event) : event.display = event.hook.label ++ " " ++ event.shown := by
  cases event <;> rfl

/-- True of events that cannot be told apart by their lines: they have one hook and one tag, and
unless the hook is the one for all items, their nodes have one name. -/
def ShownAlike (first second : Event) : Prop :=
  first.hook = second.hook ∧ first.tag = second.tag ∧
    (first.hook ≠ .single → first.header.name = second.header.name)

/-- The events of a hook have the tag that is its label, unless it is the hook for all items, whose
events have any tag. -/
theorem tag_eq_label {event : Event} (other : event.hook ≠ .single) :
    event.tag = event.hook.label := by
  cases event <;> first | rfl | exact absurd rfl other

/-- An event shows its name, unless its hook is the one for all items. The tag needs no showing
there, as it is the label. -/
theorem shown_eq_name {event : Event} (other : event.hook ≠ .single) :
    event.shown = event.header.name := by
  cases event <;> first | rfl | exact absurd rfl other

/-- An event of the hook for all items shows its tag, and its name is not shown at all. -/
theorem shown_eq_tag {event : Event} (single : event.hook = .single) : event.shown = event.tag := by
  cases event <;> first | rfl | contradiction

/-- Events of one hook show the same exactly if they have one tag, and one name unless the hook is
the one for all items. In the other hooks the tag is settled already. -/
theorem shown_eq_iff {first second : Event} (hooks : first.hook = second.hook) :
    first.shown = second.shown ↔ first.tag = second.tag ∧
      (first.hook ≠ .single → first.header.name = second.header.name) := by
  by_cases single : first.hook = .single
  · rw [shown_eq_tag single, shown_eq_tag (hooks.symm.trans single)]
    exact ⟨fun tags => ⟨tags, fun other => absurd single other⟩, And.left⟩
  · have other : second.hook ≠ .single := by rwa [← hooks]
    have tags : first.tag = second.tag := by rw [tag_eq_label single, tag_eq_label other, hooks]
    rw [shown_eq_name single, shown_eq_name other]
    exact ⟨fun names => ⟨tags, fun _ => names⟩, fun shown => shown.2 single⟩

/-- The line of an event tells its hook and what it shows. The label is the word in front of the
first blank, and further blanks are those of what is shown. -/
theorem display_eq_iff (first second : Event) :
    first.display = second.display ↔ first.ShownAlike second := by
  rw [display_eq, display_eq]
  constructor
  · intro same
    have texts : first.hook.label.toList ++ ' ' :: first.shown.toList =
        second.hook.label.toList ++ ' ' :: second.shown.toList := by
      simpa using congrArg String.toList same
    obtain ⟨labels, shows⟩ := Text.append_cons_inj_of_first first.hook.label_plain.1
      second.hook.label_plain.1 texts
    have hooks : first.hook = second.hook := Hook.label_injective (String.toList_injective labels)
    exact ⟨hooks, (shown_eq_iff hooks).mp (String.toList_injective shows)⟩
  · rintro ⟨hooks, shown⟩
    rw [hooks, (shown_eq_iff hooks).mpr shown]

/-- An event whose tag and name stay on one line is shown on one, as only one of the two is shown
and a label is plain. -/
theorem oneLine_display {event : Event} (tagged : OneLine event.tag)
    (named : OneLine event.header.name) : OneLine event.display := by
  have blank : OneLine " " := by decide
  have shown : OneLine event.shown := by
    by_cases single : event.hook = .single
    · rwa [shown_eq_tag single]
    · rwa [shown_eq_name single]
  simp [display_eq, event.hook.label_plain.2, blank, shown]

end Event

open Cli (rows summary)

/-- The rows that are printed as text are told from it, whatever their names hold but line feeds.
Lists of commands have one text exactly if they agree one by one in name and location, and the text
has a line for each command. Summaries have one text exactly if they are equal. Lists of events, be
they those of a walk or not, have one text exactly if they agree one by one in hook and tag, and in
name unless the hook is the one for all items.

Proof: texts of lines without line feeds inside are one exactly if the lines are. Within a line the
last or the first mark of a sort divides it, since what stands on one side of the mark cannot hold
it. -/
theorem rows_told_from_text :
    (∀ first second : List Command, (∀ command ∈ first ++ second, OneLine command.name) →
      (rows .text Command.line Command.row first = rows .text Command.line Command.row second ↔
        List.Forall₂ (fun left right => left.name = right.name ∧ left.location = right.location)
          first second)) ∧
    (∀ commands : List Command, (∀ command ∈ commands, OneLine command.name) →
      (rows .text Command.line Command.row commands).toList.count '\n' = commands.length) ∧
    (∀ first second : Report, (∀ row ∈ first.functions ++ second.functions, OneLine row.name) →
      (summary .text first = summary .text second ↔ first = second)) ∧
    ∀ first second : List Event,
      (∀ event ∈ first ++ second, OneLine event.tag ∧ OneLine event.header.name) →
      (rows .text Event.display Event.toJson first = rows .text Event.display Event.toJson second ↔
        List.Forall₂ Event.ShownAlike first second) := by
  refine ⟨?_, ?_, ?_, ?_⟩
  · intro first second named
    refine Cli.rows_text_eq_iff Command.line_eq_iff fun command listed => ?_
    exact Command.oneLine_line (named command listed)
  · intro commands named
    have lines : ∀ line ∈ commands.map Command.line, OneLine line :=
      List.forall_mem_map.mpr fun command among => Command.oneLine_line (named command among)
    rw [rows, Cli.count_textLines lines, List.length_map]
  · intro first second named
    rw [List.forall_mem_append] at named
    constructor
    · intro same
      exact Report.lines_injective (Cli.textLines_inj (Report.oneLine_of_mem_lines named.1)
        (Report.oneLine_of_mem_lines named.2) same)
    · exact congrArg (summary .text)
  · intro first second named
    refine Cli.rows_text_eq_iff Event.display_eq_iff fun event listed => ?_
    exact Event.oneLine_display (named event listed).1 (named event listed).2

/-- An item with a tag that reads like the line of a column, and a name that is not shown. -/
def columnLike (name : String) : Event :=
  .single (.atom (.inert { toHeader := .named name, tag := "column a" }))

/-- Names that read like other lines do not mislead: a command whose name ends in a location, a
function whose name ends in a verdict, and a tag that reads like the line of a column. -/
theorem rows_told_from_text_misleading :
    rows .text Command.line Command.row [{ name := "where 1:2", location := ⟨3, 4⟩, args := [] }] ≠
        rows .text Command.line Command.row [{ name := "where", location := ⟨1, 2⟩, args := [] },
          { name := "", location := ⟨3, 4⟩, args := [] }] ∧
      (rows .text Command.line Command.row
        [{ name := "where 1:2", location := ⟨3, 4⟩, args := [] }]).toList.count '\n' = 1 ∧
      summary .text ⟨0, 0, [⟨"f: found", false⟩]⟩ ≠ summary .text ⟨0, 0, [⟨"f", true⟩]⟩ ∧
      rows .text Event.display Event.toJson [columnLike "x"] =
        rows .text Event.display Event.toJson [columnLike "single column a"] ∧
      rows .text Event.display Event.toJson [columnLike "x"] ≠
        rows .text Event.display Event.toJson [.column (.named "a")] := by
  obtain ⟨commands, lines, reports, events⟩ := rows_told_from_text
  refine ⟨?_, ?_, ?_, ?_, ?_⟩
  · rw [ne_eq, commands _ _ (by decide)]
    simp
  · exact lines _ (by decide)
  · rw [ne_eq, reports _ _ (by decide)]
    decide
  · exact (events _ _ (by decide)).mpr (.cons ⟨rfl, rfl, fun other => absurd rfl other⟩ .nil)
  · rw [ne_eq, events _ _ (by decide)]
    simp [columnLike, Event.ShownAlike, Event.hook]

/-- A name that goes on over a line feed is not told from the names of two commands. -/
example :
    rows .text Command.line Command.row [{ name := "from 0:0\nwhere", args := [] }] =
      rows .text Command.line Command.row [.named "from" [], .named "where" []] := by
  cbv

end EsqlTree
