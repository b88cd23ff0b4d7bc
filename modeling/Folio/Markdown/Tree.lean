/-!
# Documents of markdown

A document is a list of blocks: paragraphs, headings, lists and so on. Blocks hold other blocks, or
text, or pieces of running text in which something is emphasised or linked. The tree is generic in
what stands for running text, as the blocks of a document are found before its running text is read.

* `Markdown.Inline`: a piece of running text;
* `Markdown.Block`: a block.
-/

namespace Folio.Markdown

/-- A piece of running text. -/
inductive Inline where
  /-- Characters as they are. -/
  | text (s : List Char)
  /-- A piece of code. -/
  | code (s : List Char)
  /-- Markup that is kept as it is. -/
  | html (s : List Char)
  /-- The end of a line of the source. -/
  | softBreak
  /-- The end of a line of the output. -/
  | hardBreak
  /-- Whether a task is done. -/
  | checkbox (done : Bool)
  /-- Emphasised text. -/
  | emphasis (content : List Inline)
  /-- Strongly emphasised text. -/
  | strong (content : List Inline)
  /-- Text struck out. -/
  | deleted (content : List Inline)
  /-- A link. -/
  | link (target title : List Char) (content : List Inline)
  /-- An image, described by its content. -/
  | image (target title : List Char) (content : List Inline)

/-- How a column of a table is aligned. -/
inductive Alignment where
  /-- As the reader likes. -/
  | plain
  /-- To the left. -/
  | left
  /-- Around the middle. -/
  | center
  /-- To the right. -/
  | right
deriving DecidableEq

/-- A block of a document with `α` for running text. -/
inductive Block (α : Type) where
  /-- A paragraph. -/
  | paragraph (content : α)
  /-- A heading of a level from one to six. -/
  | heading (level : Nat) (content : α)
  /-- A line across. -/
  | rule
  /-- Code, maybe with words on its language. -/
  | code (info : List Char) (text : List Char)
  /-- Markup that is kept as it is. -/
  | html (text : List Char)
  /-- A quotation. -/
  | quote (content : List (Block α))
  /-- A list. In a tight one the text of an item is no paragraph of its own. A list with a start is
      numbered. -/
  | list (start : Option Nat) (isTight : Bool) (items : List (List (Block α)))
  /-- A table: the alignments of its columns, its head and its rows. -/
  | table (columns : List Alignment) (head : List α) (rows : List (List α))

end Folio.Markdown
