import Shading.Device.Cell
import Shading.Device.Upload
import Shading.Uniform.Source

/-!
# Program images

An image is a program as it was last linked. Linking reads the declarations of the attached sources
and gives every uniform consecutive locations, by ascending name and from zero on, filled with
zeros. Settings make names inactive, active without a declaration, or without a location.
-/

namespace Shading.InMemory

open Shading.Uniform

/-- Names that the device treats in a way of its own. -/
structure Settings where
  optimizedOut : List String
  ghosts : List String
  noLocation : List String

namespace Settings

def blank : Settings := ⟨[], [], []⟩

/-- A change of one of the settings. -/
inductive Setting
  | optimizedOut (names : List String)
  | ghosts (names : List String)
  | noLocation (names : List String)

def adjust (settings : Settings) : Setting → Settings
  | .optimizedOut names => { settings with optimizedOut := names }
  | .ghosts names => { settings with ghosts := names }
  | .noLocation names => { settings with noLocation := names }

end Settings

/-- The attached sources, and what the last link has made of them. -/
structure Image where
  sources : List String
  linked : Bool
  active : List String
  locations : Std.ExtTreeMap String Int compare
  shapes : Std.ExtTreeMap Int (Kind × Width) compare
  storage : Std.ExtTreeMap Int (List Cell) compare

def Image.empty : Image := ⟨[], false, [], ∅, ∅, ∅⟩

/-- Gives element `i` of a uniform its location. -/
def Image.placeElement (name : String) (d : Descriptor) (first : Nat) (image : Image) (i : Nat) :
    Image :=
  let location : Int := first + i
  { image with
    locations := image.locations.insert (elementName name i) location
    shapes := image.shapes.insert location (d.kind, d.width)
    storage := image.storage.insert location (List.replicate d.elementLen Cell.zero) }

/-- Places a uniform behind those that are placed already. -/
def Image.place (placed : Nat × Image) (entry : String × Descriptor) : Nat × Image :=
  let (first, image) := placed
  let (name, d) := entry
  let image := { image with
    locations := image.locations.insert name first
    active := image.active ++ [name] }
  (first + d.arrayLength, (List.range d.arrayLength).foldl (Image.placeElement name d first) image)

/-- Everything that was stored is forgotten. -/
def Image.link (settings : Settings) (image : Image) : Image :=
  let table := (parse (String.intercalate ";" image.sources)).toOption.getD ∅
  let entries := table.toList.filter fun entry ↦ entry.1 ∉ settings.optimizedOut
  let placed := (entries.foldl Image.place (0, { Image.empty with sources := image.sources })).2
  { placed with active := placed.active ++ settings.ghosts, linked := true }

/-- Stores consecutive elements; a location laid out as a matrix takes the transpose if asked. -/
def Image.store (transpose : Bool) (image : Image) (item : List Cell × Int) : Image :=
  let (element, location) := item
  let element :=
    match image.shapes[location]?, transpose with
    | some (.matrix, side), true => Cell.transpose side.toNat element
    | _, _ => element
  { image with storage := image.storage.insert location element }

/-- Elements go to consecutive locations. -/
def Image.upload (location : Int) (count : Nat) (data : Upload) (image : Image) : Image :=
  let cells := Cell.ofData data.data
  let transpose := match data with
    | .matrices _ transpose _ => transpose
    | _ => false
  let elements := Cell.chunks (cells.length / count) cells
  let locations := (List.range elements.length).map fun i : Nat ↦ location + i
  (elements.zip locations).foldl (Image.store transpose) image

end Shading.InMemory
