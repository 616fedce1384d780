import Wallpaper.Emits
import Wallpaper.Event

/-! Where events go. A sink takes one event after the other; a fan passes each event on to two
sinks, which may be fans again. -/
namespace Wallpaper

/-- Takes an event and is another sink afterwards. What can be seen of that from outside the
sink is emitted. -/
class Sink (σ : Type) (ω : outParam Type) where
  deliver : Event → σ → Emits ω σ

namespace Sink

def deliverAll [Sink σ ω] (events : List Event) (sink : σ) : Emits ω σ :=
  events.foldlM (fun sink e => deliver e sink) sink

end Sink

inductive Fan (σ : Type) where
  | leaf (sink : σ)
  | both (first second : Fan σ)

namespace Fan

def leaves : Fan σ → List σ
  | leaf sink => [sink]
  | both first second => first.leaves ++ second.leaves

/-- Hands an event to the first sink, and then to the second. -/
def deliver [Sink σ ω] (e : Event) : Fan σ → Emits ω (Fan σ)
  | leaf sink => leaf <$> Sink.deliver e sink
  | both first second => do
    let first ← first.deliver e
    let second ← second.deliver e
    return both first second

instance [Sink σ ω] : Sink (Fan σ) ω where
  deliver := deliver

end Fan

end Wallpaper
