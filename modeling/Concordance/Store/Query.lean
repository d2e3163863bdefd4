import Concordance.Pattern.Word

/-!
The text of the two queries to a store. A query is plain text with string literals in it;
identifiers and patterns stand in literals only, so that no value can end its place in a query.
-/

namespace Concordance.Store

/-- A part of a query. -/
inductive Piece where
  | plain (text : List Char)
  | literal (value : List Char)
  deriving Repr, DecidableEq

/-- One character of a literal: backslashes and quotes stand behind a backslash. -/
def literalChar (c : Char) : List Char := if c = '\\' || c = '"' then ['\\', c] else [c]

/-- A string literal. -/
def quoteLiteral (value : List Char) : List Char := '"' :: value.flatMap literalChar ++ ['"']

/-- The text of a part. -/
def Piece.render : Piece → List Char
  | .plain text => text
  | .literal value => quoteLiteral value

/-- The text of a query. -/
def renderPieces (pieces : List Piece) : List Char := pieces.flatMap Piece.render

/-- What the words of a search are compiled with. -/
structure WordOptions where
  /-- a pattern has to match a whole token of the text -/
  wholeWords : Bool := false
  ignore : List Char := []
  equivalent : List (List Char) := []
  deriving Repr, DecidableEq

/-- The pattern sent for a word. -/
def WordOptions.remotePattern (o : WordOptions) (word : List Char) : Pattern.WordPattern :=
  ({ equivalent := o.equivalent, ignore := o.ignore, wholeLine := o.wholeWords } :
    Pattern.Options).pattern word

/-- The patterns sent for the words of a search. -/
def WordOptions.patterns (o : WordOptions) (words : List (List Char)) : List (List Char) :=
  words.map fun word => (o.remotePattern word).text

/-- Literals with commas between them. -/
def commaLiterals : List (List Char) → List Piece
  | [] => []
  | [p] => [.literal p]
  | p :: ps => .literal p :: .plain [',', ' '] :: commaLiterals ps

/-- The filter for what matches every pattern. -/
def filterPieces (patterns : List (List Char)) : List Piece :=
  .plain "withMatchingChars: [".toList :: commaLiterals patterns ++ [.plain [']']]

/-- The text of the filter. -/
def filterText (patterns : List (List Char)) : List Char := renderPieces (filterPieces patterns)

/-- Lines, each with a line feed before it. -/
def lines (ls : List String) : List Char := ls.flatMap fun l => '\n' :: l.toList

/-- The query for the documents of a doc set that match every pattern. -/
def booksPieces (docSet : List Char) (patterns : List (List Char)) : List Piece :=
  [.plain (lines ["        \x7b", "            docSet(id: "]), .literal docSet,
    .plain (") \x7b".toList ++ lines ["                documents("])] ++
  filterPieces patterns ++
  [.plain " allChars: true sortedBy: ".toList, .literal "paratext".toList,
    .plain (") \x7b".toList ++ lines [
      "                    id",
      "                    idParts \x7b",
      "                        type",
      "                    \x7d",
      "                \x7d",
      "            \x7d",
      "        \x7d",
      "    "])]

/-- The query for the blocks of a book that match every pattern. -/
def blocksPieces (book : List Char) (patterns : List (List Char)) : List Piece :=
  [.plain (lines ["        \x7b", "            document(id: "]), .literal book,
    .plain (") \x7b".toList ++ lines ["                bookCode: header(id: "]),
    .literal "bookCode".toList,
    .plain (')' :: lines ["                mainSequence \x7b", "                    blocks("])] ++
  filterPieces patterns ++
  [.plain (" allChars: true) \x7b".toList ++ lines [
      "                        tokens(includeContext: true) \x7b",
      "                            scopes(startsWith: ["]),
    .literal "chapter/".toList, .plain [' '], .literal "verses/".toList,
    .plain ("])".toList ++ lines [
      "                            payload",
      "                        \x7d",
      "                    \x7d",
      "                \x7d",
      "            \x7d",
      "        \x7d",
      "    "])]

/-- The text of the query for the documents of a doc set. -/
def booksQuery (docSet : String) (patterns : List (List Char)) : String :=
  String.ofList (renderPieces (booksPieces docSet.toList patterns))

/-- The text of the query for the blocks of a book. -/
def blocksQuery (book : String) (patterns : List (List Char)) : String :=
  String.ofList (renderPieces (blocksPieces book.toList patterns))

end Concordance.Store
