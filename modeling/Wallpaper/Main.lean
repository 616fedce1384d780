import Wallpaper.Tour

/-! Command line: takes the tour, prints what it tells, and keeps its timeline in a file of the
working directory. -/

def main : IO Unit := do
  IO.print Wallpaper.Tour.text
  IO.FS.writeFile Wallpaper.Tour.timelinePath Wallpaper.Tour.timeline
  IO.print Wallpaper.Tour.farewell
