import Wallpaper.Recording.Layout
import Wallpaper.Text.Outline

/-! Reading a recording one event at a time. A decoder holds the bytes and its place in them; a
damaged record moves it to the end, so it never goes on inside one. -/
namespace Wallpaper.Recording

open Wire

structure Decoder where
  bytes : Bytes
  position : Nat
  position_le : position ≤ bytes.length

namespace Decoder

def start (bytes : Bytes) : Decoder := ⟨bytes, 0, Nat.zero_le _⟩

def remaining (d : Decoder) : Bytes := d.bytes.drop d.position

def next? (d : Decoder) : Option Event × Decoder :=
  match event.read d.remaining with
  | some (e, rest) =>
    (some e, ⟨d.bytes, d.bytes.length - rest.length, Nat.sub_le _ _⟩)
  | none => (none, ⟨d.bytes, d.bytes.length, Nat.le_refl _⟩)

def outline (d : Decoder) : Text.Outline :=
  .record "DecodeIter"
    [("data", .list (d.bytes.map fun b => .ofNat b.toNat)), ("pos", .ofNat d.position)] true

end Decoder

end Wallpaper.Recording
