import Plotter.Text.CaseTable

/-!
# Lower case

Keywords, colour names and option words are compared in lower case.  The mapping is the full one:
the Kelvin sign is lowered to the letter k, the capital I with a dot becomes two characters, and
a capital sigma takes its final form at the end of a word.
-/

namespace Plotter.Text

def inRanges (ranges : List (Nat × Nat)) (c : Char) : Bool :=
  ranges.any fun (low, high) => low ≤ c.toNat && c.toNat ≤ high

def isCased (c : Char) : Bool := inRanges casedRanges c

def isCaseIgnored (c : Char) : Bool := inRanges caseIgnoredRanges c

/-- The lower-case form of a character that stands alone. -/
def lowerChar (c : Char) : Text :=
  let n := c.toNat
  if n < 0x80 then
    if 'A'.toNat ≤ n && n ≤ 'Z'.toNat then [Char.ofNat (n + 32)] else [c]
  else if n == 0x130 then [Char.ofNat 0x69, Char.ofNat 0x307]
  else
    match loweredRuns.find? fun run =>
        run.first ≤ n && n ≤ run.last && (n - run.first) % run.step == 0 with
    | some run => [Char.ofNat (Int.toNat (n + run.shift))]
    | none => [c]

/-- The nearest character that is not ignored is a letter with a case. -/
def meetsCased (neighbours : Text) : Bool :=
  match neighbours.dropWhile isCaseIgnored with
  | [] => false
  | c :: _ => isCased c

/-- Lowers the text that follows `before`, which is kept with its last character first. -/
def lowerAfter (before : Text) : Text → Text
  | [] => []
  | c :: rest =>
    let lowered :=
      if c.toNat == 0x3A3 then
        if meetsCased before && !meetsCased rest then [Char.ofNat 0x3C2] else [Char.ofNat 0x3C3]
      else
        lowerChar c
    lowered ++ lowerAfter (c :: before) rest

def lower (t : Text) : Text := lowerAfter [] t

/-- The capital form of the characters whose capital is an unaccented Latin letter. -/
def capital (c : Char) : Char :=
  let n := c.toNat
  if 'a'.toNat ≤ n && n ≤ 'z'.toNat then Char.ofNat (n - 32)
  else if n == 0x131 then 'I'
  else if n == 0x17F then 'S'
  else c

end Plotter.Text
