import Keychord.Text.CaseTable

/-!
# Lower and upper case

Lower case of a whole text is taken character by character, with one exception: a capital
sigma becomes the final form when it ends a word, that is when a cased letter stands before
it and none after it, other marks aside. Upper case is only needed for single characters,
some of which become two or three.

Letters `A` to `Z` have a case of their own here, `asciiLower`, for the places where only
they may differ.
-/
namespace Keychord.Text

/-- Lower case of the letters `A` to `Z`; every other character stays. -/
def asciiLower (c : Char) : Char :=
  if 'A' ≤ c ∧ c ≤ 'Z' then Char.ofNat (c.toNat + 32) else c

theorem toNat_asciiLower (c : Char) :
    (asciiLower c).toNat = if 65 ≤ c.toNat ∧ c.toNat ≤ 90 then c.toNat + 32 else c.toNat := by
  have hrange : ('A' ≤ c ∧ c ≤ 'Z') ↔ (65 ≤ c.toNat ∧ c.toNat ≤ 90) := Iff.rfl
  unfold asciiLower
  by_cases h : 65 ≤ c.toNat ∧ c.toNat ≤ 90
  · have hvalid : (c.toNat + 32).isValidChar := Or.inl (by omega)
    rw [if_pos (hrange.mpr h), if_pos h, Char.ofNat, dif_pos hvalid]
    rfl
  · rw [if_neg (fun hc => h (hrange.mp hc)), if_neg h]

/-- The image of the first run that maps the code point. -/
def mapRuns? (runs : List CaseRun) (n : Nat) : Option Nat := runs.findSome? (·.map? n)

/-- Lower case of one character on its own. -/
def lowerChar (c : Char) : List Char :=
  if c = 'İ' then ['i', '\u0307']
  else match mapRuns? lowerRuns c.toNat with
    | some n => [Char.ofNat n]
    | none => [c]

/-- Upper case of one character. -/
def upperChar (c : Char) : List Char :=
  match upperExpansions.find? (·.1 == c.toNat) with
  | some (_, image) => image.map Char.ofNat
  | none => match mapRuns? upperRuns c.toNat with
    | some n => [Char.ofNat n]
    | none => [c]

def isCased (c : Char) : Bool := casedRanges.has c

def isCaseIgnorable (c : Char) : Bool := caseIgnorableRanges.has c

/-- The first character that is not looked through is a cased letter. -/
def facesCased (text : List Char) : Bool :=
  match text.dropWhile isCaseIgnorable with
  | c :: _ => isCased c
  | [] => false

/-- A sigma between these two texts ends a word. The text before it is given backwards. -/
def endsWord (before after : List Char) : Bool := facesCased before && !facesCased after

/-- Lower case of the rest of a text, of which `before` has been read, last character first. -/
def lowerAfter (before : List Char) : List Char → List Char
  | [] => []
  | c :: rest =>
    (if c = 'Σ' then [if endsWord before rest then 'ς' else 'σ'] else lowerChar c) ++
      lowerAfter (c :: before) rest

/-- Lower case of a whole text. -/
def lower (text : List Char) : List Char := lowerAfter [] text

/-- The text with its first character in upper case. -/
def capitalize : List Char → List Char
  | [] => []
  | c :: rest => upperChar c ++ rest

/-- Lower case of a string. -/
def lowercase (s : String) : String := String.ofList (lower s.toList)

@[simp] theorem toList_lowercase (s : String) : (lowercase s).toList = lower s.toList := by
  simp [lowercase]

end Keychord.Text
