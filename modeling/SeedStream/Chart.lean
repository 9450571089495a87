import SeedStream.Battery.Report
import SeedStream.FileTree

/-!
# Charts

A chart of a sample of words has two panels: how often each byte occurs, and how often each bit is
one. A chart is a list of drawing steps, which some other program carries out. The folder of the
picture is made before the picture is saved.
-/

namespace SeedStream

/-- A panel of a chart. -/
inductive Panel
  | bytes
  | bits
  deriving DecidableEq, Repr

/-- A step of drawing a chart. -/
inductive DrawStep
  /-- Draw without a screen. -/
  | offscreen
  /-- Open a figure with panels side by side. -/
  | panels (rows columns width height : Nat)
  /-- A bar for each byte. -/
  | byteBars (counts : List Nat) (color : String) (width : Float)
  /-- A bar for each bit. -/
  | bitBars (means : List Float) (color : String)
  /-- A line across a panel. -/
  | level (panel : Panel) (height : Float) (color : String) (width : Float)
  /-- The lowest and the highest value that a panel shows. -/
  | range (panel : Panel) (low high : Float)
  | xLabel (panel : Panel) (text : String)
  | yLabel (panel : Panel) (text : String)
  | title (text : Text)
  /-- Fit the panels into the figure. -/
  | fit
  | save (p : Path) (dotsPerInch : Nat)
  | close

namespace Chart

/-- The color of the bars for bytes. -/
def byteColor : String := "#4c72b0"

/-- The color of the bars for bits. -/
def bitColor : String := "#55a868"

/-- The color of the lines at the expected heights. -/
def levelColor : String := "#c44e52"

/-- Count the bytes of a word. -/
def tallyWord (counts : Array Nat) (w : Word) : Array Nat :=
  (Word.bytes w).foldl (fun counts b => counts.modify b.toNat (· + 1)) counts

/-- How often each byte occurs in a sample. -/
def byteCounts (ws : List Word) : List Nat :=
  (ws.foldl tallyWord (Array.replicate 256 0)).toList

theorem size_tallyWord (counts : Array Nat) (w : Word) : (tallyWord counts w).size = counts.size := by
  unfold tallyWord
  induction Word.bytes w generalizing counts with
  | nil => rfl
  | cons b rest ih => rw [List.foldl_cons, ih, Array.size_modify]

@[simp] theorem length_byteCounts (ws : List Word) : (byteCounts ws).length = 256 := by
  have kept (counts : Array Nat) : (ws.foldl tallyWord counts).size = counts.size := by
    induction ws generalizing counts with
    | nil => rfl
    | cons w rest ih => rw [List.foldl_cons, ih, size_tallyWord]
  rw [byteCounts, Array.length_toList, kept, Array.size_replicate]

/-- How often each byte is expected to occur in a sample of `n` words. -/
def expectedCount (n : Nat) : Float :=
  (4 * n).toFloat / 256.0

/-- The share of words in which each bit is one; without words no bit is. -/
def bitMeans (ws : List Word) : List Float :=
  if ws.isEmpty then List.replicate 32 0.0
  else (Battery.bitCounts ws).map (Battery.bitMean Float ws.length)

@[simp] theorem length_bitMeans (ws : List Word) : (bitMeans ws).length = 32 := by
  unfold bitMeans
  split <;> simp

/-- The title of a chart, if it has one. -/
def titleSteps (title : Text) : List DrawStep :=
  if title.isEmpty then [] else [.title title]

/-- The steps that draw both panels. -/
def panelSteps (ws : List Word) (title : Text) : List DrawStep :=
  [.panels 1 2 11 4,
    .byteBars (byteCounts ws) byteColor 1.0,
    .level .bytes (expectedCount ws.length) levelColor 1.0,
    .xLabel .bytes "byte value",
    .yLabel .bytes "count",
    .bitBars (bitMeans ws) bitColor,
    .level .bits 0.5 levelColor 1.0,
    .range .bits 0.45 0.55,
    .xLabel .bits "bit position",
    .yLabel .bits "P(bit = 1)"] ++ titleSteps title ++ [.fit]

/-- The steps that save a chart. -/
def saveSteps (p : Path) : List DrawStep :=
  [.save p 150, .close]

/-- A chart as far as it was drawn. -/
structure Drawing where
  steps : List DrawStep
  result : Except Failure Path
  tree : FileTree

/-- Draw a chart of a sample, save it at a path and report the path. Without the program that draws
    there are no steps; a sample that is refused ends the drawing before a figure is opened. -/
def draw (installed : Bool) (sample : Except Failure (List Word)) (p : Path) (title : Text)
    (t : FileTree) : Drawing :=
  if !installed then ⟨[], .error (.missing .plotting), t⟩
  else
    match sample with
    | .error e => ⟨[.offscreen], .error e, t⟩
    | .ok ws =>
      let steps := .offscreen :: panelSteps ws title
      match t.ensureFolder p.parent with
      | (.error e, t) => ⟨steps, .error e, t⟩
      | (.ok (), t) => ⟨steps ++ saveSteps p, .ok p, t⟩

end Chart

end SeedStream
