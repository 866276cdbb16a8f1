/-
Tables that give each of many characters a text, such as what it is composed of or what it is
replaced by.  The tables of Unicode have thousands of entries, most of them for neighbours, and so a
table is itself written as text: a number and a colon say for which character the next entry is, and
the entries after it are for the characters that follow.
-/
import GatewayQuery.Text.Split

namespace GatewayQuery.Text

/-- Characters, each with a text. -/
structure CodeTable where
  entries : List (Char × List Char)

namespace CodeTable

/-- The number that hexadecimal digits denote, the letters among them capital. -/
def hex (digits : List Char) : Nat :=
  digits.foldl (fun total c => total * 16 + (if c.isDigit then c.toNat - 48 else c.toNat - 55)) 0

/-- How far a table is read: the number of the character whose entry comes next, and the entries so
far, the last of them in front. -/
structure Progress where
  next : Nat
  entries : List (Char × List Char)

/-- One word of a table.  `C0:` goes to a character, `-` passes over one that has no entry, and
`61+300` is the entry of two characters for the one whose turn it is. -/
def Progress.read (done : Progress) (word : List Char) : Progress :=
  if word.getLast? = some ':' then { done with next := hex word.dropLast }
  else if word = ['-'] then { done with next := done.next + 1 }
  else
    { next := done.next + 1
      entries := (Char.ofNat done.next, (split '+' word).map fun code => Char.ofNat (hex code)) ::
        done.entries }

/-- The table that a text holds, its words separated by spaces and line ends. -/
def ofText (text : String) : CodeTable :=
  let spaced := text.toList.map fun c => if c = '\n' then ' ' else c
  let words := (split ' ' spaced).filter (!·.isEmpty)
  ⟨(words.foldl Progress.read ⟨0, []⟩).entries.reverse⟩

/-- The text of a character. -/
def text? (table : CodeTable) (c : Char) : Option (List Char) := table.entries.lookup c

/-- The first character with a text. -/
def character? (table : CodeTable) (text : List Char) : Option Char :=
  (table.entries.find? (·.2 == text)).map (·.1)

end CodeTable

end GatewayQuery.Text
