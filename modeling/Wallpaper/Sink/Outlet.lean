import Wallpaper.Sink.Receiver

/-! What a caller passes along with an operation: a fan for the events, or nothing. Operations
do not look at it, so what they do is the same either way. -/
namespace Wallpaper

structure Outlet where
  fan? : Option (Fan Receiver)

namespace Outlet

def closed : Outlet := ⟨none⟩

def ofFan (fan : Fan Receiver) : Outlet := ⟨some fan⟩

def deliver (e : Event) (outlet : Outlet) : Emits Sighting Outlet :=
  match outlet.fan? with
  | none => pure closed
  | some fan => ofFan <$> fan.deliver e

instance : Sink Outlet Sighting where
  deliver := deliver

/-- Whether there is a fan is not shown. -/
def outline (_ : Outlet) : Text.Outline := .record "Tracer" [] false

end Outlet

end Wallpaper
