/-
Module: SecureShell.Proofs.Rendering
Purpose: Configuration sheets and the texts that they are written as. A sheet is a document without includes:
  settings for every host, then sections with their patterns and settings. A layout says for every line how far
  it is indented, what stands between its parts, which remark stands behind it, how the line ends, and which
  empty lines and comments come before it. The types carry what a reader relies on, so that every sheet can be
  written in every layout.
Main exports: Quotable, FreeKeyword, CommandLine, SheetSetting, Section, Sheet, Sheet.document, LineLayout, Layout,
  Layout.render
-/
import SecureShell.Config.Reading
import SecureShell.Proofs.WrittenLine

namespace SecureShell

/-- Any text within a line. -/
structure Phrase where
  text : Text
  single : '\n' ∉ text

/-- What can stand between double quotes. -/
structure Quotable extends Phrase where
  unquoted : '"' ∉ text

def Quotable.written (inner : Quotable) : Text :=
  '"' :: inner.text ++ ['"']

/-! ### Sheets -/

/-- A keyword that the reader gives no meaning of its own. -/
structure FreeKeyword where
  text : Text
  leads : Leads text
  plain : Directive.PlainKeyword text

/-- A command that is handed on as it is written. -/
structure CommandLine extends Phrase where
  nonempty : text ≠ []
  trimmed : Text.trim text = text
  noEquals : text.head? ≠ some '='

/-- A setting of a sheet. A proxy command is written without quotes, in whatever case its keyword is. -/
inductive SheetSetting where
  | quoted (keyword : FreeKeyword) (value : Quotable) (nonempty : value.text ≠ [])
  | command (keyword : Text) (named : Text.SameLetters keyword "proxycommand".toList)
      (value : CommandLine)

/-- The settings for the hosts that a list of patterns selects. -/
structure Section where
  patterns : List Quotable
  nonempty : patterns ≠ []
  settings : List SheetSetting

/-- The settings for every host, and the sections. -/
structure Sheet where
  leading : List SheetSetting
  sections : List Section

def SheetSetting.entry : SheetSetting → ConfigEntry
  | .quoted keyword value _ => .setting keyword.text value.text
  | .command keyword _ value => .setting keyword value.text

/-- A pattern of a section. With an exclamation mark in front it is negated. -/
def Quotable.pattern (inner : Quotable) : HostPattern :=
  if inner.text.head? = some '!' then ⟨inner.text.tail, true⟩ else ⟨inner.text, false⟩

def Section.block (part : Section) : Block :=
  .scoped (part.patterns.map Quotable.pattern) (part.settings.map SheetSetting.entry)

/-- The document that a sheet stands for. -/
def Sheet.document (sheet : Sheet) : Document :=
  ⟨.scoped [HostPattern.any] (sheet.leading.map SheetSetting.entry) :: sheet.sections.map Section.block⟩

/-! ### Lines -/

/-- A line of a sheet that has a meaning. -/
inductive Statement where
  | host (patterns : List Quotable) (nonempty : patterns ≠ [])
  | setting (setting : SheetSetting)

def Section.statements (part : Section) : List Statement :=
  .host part.patterns part.nonempty :: part.settings.map .setting

/-- The lines of a sheet that have a meaning, in order. -/
def Sheet.statements (sheet : Sheet) : List Statement :=
  sheet.leading.map .setting ++ sheet.sections.flatMap Section.statements

/-- How a line ends. -/
inductive LineEnd where
  | feed
  | returnFeed

/-- What a line end puts in front of the line feed. -/
def LineEnd.mark : LineEnd → Text
  | .feed => []
  | .returnFeed => ['\r']

theorem LineEnd.blank_mark (ending : LineEnd) : ∀ c ∈ ending.mark, Text.isBlank c = true := by
  cases ending <;> simp [LineEnd.mark, Text.isBlank]

theorem LineEnd.single_mark (ending : LineEnd) : '\n' ∉ ending.mark := by
  cases ending <;> decide

/-- A line without a meaning. -/
inductive Filler where
  | empty (blanks : Indent)
  | comment (indent : Indent) (phrase : Phrase)

def Filler.text : Filler → Text
  | .empty blanks => blanks.text
  | .comment indent phrase => indent.text ++ '#' :: phrase.text

/-- A remark behind a value. -/
structure Remark where
  gap : Gap
  phrase : Phrase

/-- What is written for a remark that there may be. -/
def remarkText : Option Remark → Text
  | none => []
  | some remark => remark.gap.text ++ '#' :: remark.phrase.text

/-- How one line is written, and what comes before it. `gap n` stands behind the pattern number `n`, counted
from zero, if another pattern follows. -/
structure LineLayout where
  before : List (Filler × LineEnd)
  indent : Indent
  divider : Divider
  gap : Nat → Gap
  remark : Option Remark
  ending : LineEnd

/-- Patterns in quotes, with blanks between them. -/
def patternsText (gap : Nat → Gap) : List Quotable → Text
  | [] => []
  | [pattern] => pattern.written
  | pattern :: next :: rest =>
      pattern.written ++ (gap 0).text ++ patternsText (fun n => gap (n + 1)) (next :: rest)

/-- A statement without its line end. A proxy command takes no remark, which would be part of it. -/
def Statement.text (layout : LineLayout) : Statement → Text
  | .host patterns _ =>
      layout.indent.text ++ "Host".toList ++ layout.divider.text
        ++ (patternsText layout.gap patterns ++ remarkText layout.remark)
  | .setting (.quoted keyword value _) =>
      layout.indent.text ++ keyword.text ++ layout.divider.text
        ++ (value.written ++ remarkText layout.remark)
  | .setting (.command keyword _ value) =>
      layout.indent.text ++ keyword ++ layout.divider.text ++ value.text

/-- How a sheet is written: its lines by number, and the lines without a meaning at its end. -/
structure Layout where
  line : Nat → LineLayout
  closing : List (Filler × LineEnd)

/-- A line of a written sheet. -/
inductive Row where
  | filler (filler : Filler)
  | statement (layout : LineLayout) (statement : Statement)

def Row.text : Row → Text
  | .filler idle => idle.text
  | .statement layout meant => meant.text layout

/-- The rows for a statement and the lines in front of it. -/
def LineLayout.rows (layout : LineLayout) (statement : Statement) : List (Row × LineEnd) :=
  layout.before.map (fun ended => (.filler ended.1, ended.2)) ++ [(.statement layout statement, layout.ending)]

/-- The rows of a sheet. -/
def Layout.rows (layout : Layout) (sheet : Sheet) : List (Row × LineEnd) :=
  sheet.statements.zipIdx.flatMap (fun numbered => (layout.line numbered.2).rows numbered.1)
    ++ layout.closing.map fun ended => (.filler ended.1, ended.2)

/-- The text of rows with their line ends. -/
def rowsText (rows : List (Row × LineEnd)) : Text :=
  rows.flatMap fun ended => ended.1.text ++ ended.2.mark ++ ['\n']

/-- The text of a sheet in a layout. -/
def Layout.render (layout : Layout) (sheet : Sheet) : Text :=
  rowsText (layout.rows sheet)

example :
    let flush : Indent := ⟨[], by simp, by decide⟩
    let space : Gap := ⟨⟨[' '], by simp [Text.isBlank], by decide⟩, by decide⟩
    let user : FreeKeyword :=
      ⟨"User".toList, ⟨by decide, by simp [Directive.endsKeyword, Text.isBlank], by decide⟩,
        ⟨by decide, by decide, by decide, by decide⟩⟩
    let value : Quotable := ⟨⟨"a #b".toList, by decide⟩, by decide⟩
    let line : LineLayout := ⟨[(.comment flush ⟨"!".toList, by decide⟩, .returnFeed)], flush,
      .equals flush flush, fun _ => space, some ⟨space, ⟨"c".toList, by decide⟩⟩, .feed⟩
    Layout.render ⟨fun _ => line, []⟩ ⟨[.quoted user value (by decide)], [⟨[value, value], by decide, []⟩]⟩
      = "#!\r\nUser=\"a #b\" #c\n#!\r\nHost=\"a #b\" \"a #b\" #c\n".toList := by decide

end SecureShell
