import FacetRules.Text.Bytes

/-!
# Comma-separated tables

A table is a sequence of bytes.  Records end at a line feed, a carriage return or
both, and fields at a comma.  Empty lines are passed over.  A field that starts
with a quotation mark runs to the next one that is not doubled; within it commas
and line ends are text, and a doubled quotation mark is one quotation mark.  What
follows the closing mark is text, and so is every other quotation mark.  A field
whose closing mark is missing runs to the end of the table, and the last record
needs no line end.

A byte order mark in front is passed over.  The first record is the heading, which
is not looked at.  A record whose fields are not UTF-8 damages the table, and so
does a sequence of bytes that breaks off; the records before the damage can still
be used, as far as their ends were reached.
-/

namespace FacetRules
namespace Csv

abbrev RawRecord := List (List UInt8)

inductive Mode
  | betweenRecords
  | atField
  | inField
  | inQuotes
  /-- Behind a quotation mark that closes a field or is the first of two. -/
  | behindQuote
  deriving DecidableEq, Repr

/-- What was scanned of a record: its complete fields and the one under way, both
in reverse. -/
structure Scan where
  mode : Mode := .betweenRecords
  fields : RawRecord := []
  field : List UInt8 := []

namespace Scan

def record (s : Scan) : RawRecord :=
  (s.field.reverse :: s.fields).reverse

def push (s : Scan) (b : UInt8) (mode : Mode) : Scan :=
  { s with mode, field := b :: s.field }

def nextField (s : Scan) : Scan :=
  { mode := .atField, fields := s.field.reverse :: s.fields, field := [] }

def isLineEnd (b : UInt8) : Bool :=
  b == 0x0A || b == 0x0D

def bare (s : Scan) (b : UInt8) : Scan × Option RawRecord :=
  if b == 0x2C then
    (s.nextField, none)
  else if isLineEnd b then
    ({}, some s.record)
  else
    (s.push b .inField, none)

def opening (s : Scan) (b : UInt8) : Scan × Option RawRecord :=
  if b == 0x22 then ({ s with mode := .inQuotes }, none) else s.bare b

/-- Scans a byte, and gives the record that it ends, if it ends one. -/
def step (s : Scan) (b : UInt8) : Scan × Option RawRecord :=
  match s.mode with
  | .betweenRecords => if isLineEnd b then (s, none) else s.opening b
  | .atField => s.opening b
  | .inField => s.bare b
  | .inQuotes =>
      if b == 0x22 then ({ s with mode := .behindQuote }, none) else (s.push b .inQuotes, none)
  | .behindQuote => if b == 0x22 then (s.push b .inQuotes, none) else s.bare b

def close (s : Scan) : List RawRecord :=
  match s.mode with
  | .betweenRecords => []
  | _ => [s.record]

end Scan

/-- The records in a sequence of bytes, going on from what was scanned.  Only a
sequence that does not break off ends its last record. -/
def scan (intact : Bool) : Scan -> List UInt8 -> List RawRecord
  | s, [] => if intact then s.close else []
  | s, b :: rest =>
      match s.step b with
      | (s, some record) => record :: scan intact s rest
      | (s, none) => scan intact s rest

def dropMark : List UInt8 -> List UInt8
  | 0xEF :: 0xBB :: 0xBF :: rest => rest
  | bytes => bytes

/-- The records of a table that can be used, and whether damage follows them. -/
structure Records where
  rows : List (List String)
  damaged : Bool
  deriving DecidableEq, Repr

/-- The records up to the first that is not UTF-8. -/
def decode (intact : Bool) : List RawRecord -> Records
  | [] => { rows := [], damaged := !intact }
  | raw :: rest =>
      match raw.mapM Text.ofBytes? with
      | none => { rows := [], damaged := true }
      | some fields =>
          let later := decode intact rest
          { later with rows := fields :: later.rows }

/-- Reads a table.  The heading is dropped. -/
def read (bytes : List UInt8) (intact : Bool) : Records :=
  decode intact ((scan intact {} (dropMark bytes)).drop 1)

end Csv
end FacetRules
