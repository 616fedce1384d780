import Wallpaper.Proofs.Sink.LogLines

/-! Logs that run out of room. A line that does not fit is stored as far as it does, and no later
line adds to it: the log stays a front part of the log that has all the room it needs. Nobody hears
of the failure, and the writer takes the next event as it took the last. -/
namespace Wallpaper

open Wire (Bytes utf8)

theorem Event.length_line_pos (e : Event) : 0 < (utf8 e.line).length := by
  rw [e.line_eq, Wire.utf8_append, List.length_append]
  exact Nat.add_pos_right _ (by decide)

namespace Printer

def printAll (p : Printer) (events : List Event) : Printer := events.foldl print p

/-- The printer gives up the line of this event. -/
def fails (p : Printer) (e : Event) : Bool := !(p.room.write e.pieces).complete

/-- The whole log of some events: the text of each, and an end of line behind it. -/
def text (events : List Event) : Bytes :=
  utf8 (String.join (events.map fun e => e.body ++ "\n"))

theorem text_eq_lines (events : List Event) :
    text events = utf8 (String.join (events.map Event.line)) := by
  simp only [text, ← Event.line_eq]

theorem text_append (earlier later : List Event) :
    text (earlier ++ later) = text earlier ++ text later := by
  simp [text, Wire.utf8_append]

theorem text_singleton (e : Event) : text [e] = utf8 e.line := by simp [text_eq_lines]

theorem text_cons (e : Event) (rest : List Event) :
    text (e :: rest) = utf8 e.line ++ text rest := by
  rw [← List.singleton_append, text_append, text_singleton]

theorem printAll_bytes (stored : Bytes) (left : Nat) (events : List Event) :
    printAll ⟨stored, .bytes left⟩ events =
      ⟨stored ++ (text events).take left, .bytes (left - (text events).length)⟩ := by
  induction events generalizing stored left with
  | nil => simp [printAll, text, utf8]
  | cons e rest ih =>
    have first : print ⟨stored, .bytes left⟩ e =
        ⟨stored ++ (utf8 e.line).take left, .bytes (left - (utf8 e.line).length)⟩ := by
      rw [print, Room.write_bytes]
      rfl
    show printAll (print _ e) rest = _
    rw [first, ih, text_cons, List.take_append, List.length_append, List.append_assoc, Nat.sub_sub]

theorem fails_bytes (stored : Bytes) (left : Nat) (e : Event) :
    fails ⟨stored, .bytes left⟩ e = true ↔ left < (utf8 e.line).length := by
  simp [fails, Room.write_bytes, Event.line]

end Printer

namespace Receiver

theorem deliverAll_printer_eq (p : Printer) (events : List Event) :
    Sink.deliverAll events (printer p) = pure (printer (p.printAll events)) := by
  induction events generalizing p with
  | nil => rfl
  | cons e rest ih =>
    rw [Sink.deliverAll_cons]
    exact ih (p.print e)

theorem printAll_unlimited (events : List Event) :
    Printer.printAll ⟨[], .unlimited⟩ events = ⟨Printer.text events, .unlimited⟩ := by
  have delivered := deliverAll_printer events []
  rw [deliverAll_printer_eq, List.nil_append, ← Printer.text_eq_lines] at delivered
  exact printer.inj delivered

/-- A line writer with all the room it needs stores the texts of the events, each with an end of
line behind it. With room for so many bytes it stores the front of that. The first line that goes
beyond fails, and nothing behind it adds to the log. -/
theorem printed_front (limit : Nat) (events : List Event) :
    let log (room : Room) (events : List Event) := Printer.printAll ⟨[], room⟩ events
    let full (events : List Event) := (log .unlimited events).stored
    let stored (events : List Event) := (log (.bytes limit) events).stored
    (∀ room, Sink.deliverAll events (printer ⟨[], room⟩) = pure (printer (log room events))) ∧
      (∀ events, full events = Printer.text events) ∧
      stored events = (full events).take limit ∧
      ∀ earlier e later, events = earlier ++ e :: later →
        ((log (.bytes limit) earlier).fails e = true ↔ limit < (full (earlier ++ [e])).length) ∧
        ((log (.bytes limit) earlier).fails e = true →
          stored events = stored (earlier ++ [e])) := by
  intro log full stored
  have full_eq (events : List Event) : full events = Printer.text events := by
    simp only [full, log, printAll_unlimited]
  have stored_eq (events : List Event) : stored events = (full events).take limit := by
    rw [full_eq]
    simp only [stored, log, Printer.printAll_bytes, List.nil_append]
  refine ⟨fun room => deliverAll_printer_eq ⟨[], room⟩ events, full_eq, stored_eq events, ?_⟩
  rintro earlier e later rfl
  have fails : (log (.bytes limit) earlier).fails e = true ↔
      limit < (full (earlier ++ [e])).length := by
    have ends := e.length_line_pos
    simp only [log, Printer.printAll_bytes, Printer.fails_bytes, full_eq, Printer.text_append,
      List.length_append]
    rw [Printer.text_singleton]
    omega
  refine ⟨fails, fun failed => ?_⟩
  have crossed := fails.1 failed
  rw [stored_eq, stored_eq, List.append_cons, full_eq (_ ++ later), Printer.text_append, ← full_eq]
  exact List.take_append_of_le_length (Nat.le_of_lt crossed)

end Receiver

end Wallpaper
