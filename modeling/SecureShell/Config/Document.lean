/-
Module: SecureShell.Config.Document
Purpose: A configuration document: blocks in text order, each with the patterns of its host line and its
  entries. An entry is a setting or the blocks of an included document. The value of a keyword for a host
  is the first one found in the blocks that select the host.
Main exports: Block, ConfigEntry, Document, Document.get, Document.settings
-/
import SecureShell.Pattern.HostPattern

namespace SecureShell

mutual

/-- The entries under one host line. -/
inductive Block where
  | scoped (patterns : List HostPattern) (entries : List ConfigEntry)

/-- A setting, or the blocks of a document that an include line names. -/
inductive ConfigEntry where
  | setting (keyword value : Text)
  | included (blocks : List Block)

end

/-- A decoded configuration text. -/
structure Document where
  blocks : List Block

namespace Document

mutual

/-- The first value in the blocks, in order. -/
def findInBlocks (host keyword : Text) : List Block → Option Text
  | [] => none
  | block :: rest => (findInBlock host keyword block).or (findInBlocks host keyword rest)

/-- The first value in a block, if the block selects the host. -/
def findInBlock (host keyword : Text) : Block → Option Text
  | .scoped patterns entries =>
      if HostPattern.selects patterns host then findInEntries host keyword entries else none

/-- The first value in the entries, in order. -/
def findInEntries (host keyword : Text) : List ConfigEntry → Option Text
  | [] => none
  | entry :: rest => (findInEntry host keyword entry).or (findInEntries host keyword rest)

/-- The value of a setting with the keyword, or the first value in the included blocks. -/
def findInEntry (host keyword : Text) : ConfigEntry → Option Text
  | .setting name value => if Text.SameLetters name keyword then some value else none
  | .included blocks => findInBlocks host keyword blocks

end

/-- The first value for a keyword in the blocks that select a host. -/
def get (document : Document) (host keyword : Text) : Option Text :=
  findInBlocks host keyword document.blocks

/-- A setting together with the pattern lists of all the blocks around it, outermost first. -/
structure ScopedSetting where
  scopes : List (List HostPattern)
  keyword : Text
  value : Text
deriving DecidableEq, Repr

/-- Whether every block around a setting selects a host. -/
def ScopedSetting.appliesTo (setting : ScopedSetting) (host : Text) : Bool :=
  setting.scopes.all fun patterns => HostPattern.selects patterns host

mutual

/-- The settings of blocks in text order, within the scopes around the blocks. -/
def settingsOfBlocks (scopes : List (List HostPattern)) : List Block → List ScopedSetting
  | [] => []
  | block :: rest => settingsOfBlock scopes block ++ settingsOfBlocks scopes rest

/-- The settings of one block. -/
def settingsOfBlock (scopes : List (List HostPattern)) : Block → List ScopedSetting
  | .scoped patterns entries => settingsOfEntries (scopes ++ [patterns]) entries

/-- The settings of entries, with those of an included document in its place. -/
def settingsOfEntries (scopes : List (List HostPattern)) : List ConfigEntry → List ScopedSetting
  | [] => []
  | entry :: rest => settingsOfEntry scopes entry ++ settingsOfEntries scopes rest

/-- The settings of one entry. -/
def settingsOfEntry (scopes : List (List HostPattern)) : ConfigEntry → List ScopedSetting
  | .setting keyword value => [⟨scopes, keyword, value⟩]
  | .included blocks => settingsOfBlocks scopes blocks

end

/-- All settings of a document in the order in which they are looked up. -/
def settings (document : Document) : List ScopedSetting :=
  settingsOfBlocks [] document.blocks

end Document

end SecureShell
