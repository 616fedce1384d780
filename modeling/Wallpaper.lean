import Wallpaper.Animation
import Wallpaper.Binary.Basic
import Wallpaper.Binary.Interchange
import Wallpaper.Binary.Rounding
import Wallpaper.Binary.Unit
import Wallpaper.Command
import Wallpaper.Emits
import Wallpaper.Event
import Wallpaper.Extras
import Wallpaper.Geometry
import Wallpaper.Group.Basic
import Wallpaper.Group.Broadcast
import Wallpaper.Group.Membership
import Wallpaper.Group.Outline
import Wallpaper.Group.Visibility
import Wallpaper.Host.Asking
import Wallpaper.Host.Roles
import Wallpaper.Identity
import Wallpaper.LogLine
import Wallpaper.Main
import Wallpaper.Parallax
import Wallpaper.Proofs.Animation.Ends
import Wallpaper.Proofs.Binary.Nearest
import Wallpaper.Proofs.Binary.Unit
import Wallpaper.Proofs.Command.Contents
import Wallpaper.Proofs.Group.Blocks
import Wallpaper.Proofs.Group.Chronicle
import Wallpaper.Proofs.Group.Commands
import Wallpaper.Proofs.Group.Draining
import Wallpaper.Proofs.Group.Events
import Wallpaper.Proofs.Group.Life
import Wallpaper.Proofs.Group.Offsets
import Wallpaper.Proofs.Group.Passage
import Wallpaper.Proofs.Group.Replay
import Wallpaper.Proofs.Group.Roster
import Wallpaper.Proofs.Group.Stops
import Wallpaper.Proofs.Host.Layers
import Wallpaper.Proofs.Host.Layouts
import Wallpaper.Proofs.Host.Log
import Wallpaper.Proofs.Host.Notices
import Wallpaper.Proofs.Host.Placement
import Wallpaper.Proofs.Host.Registration
import Wallpaper.Proofs.Host.Run
import Wallpaper.Proofs.Host.Settling
import Wallpaper.Proofs.Host.Showing
import Wallpaper.Proofs.Host.Steady
import Wallpaper.Proofs.Host.Tracing
import Wallpaper.Proofs.Parallax.Cover
import Wallpaper.Proofs.Parallax.Pages
import Wallpaper.Proofs.Recording.Exactness
import Wallpaper.Proofs.Recording.FullTimeline
import Wallpaper.Proofs.Recording.Grammar
import Wallpaper.Proofs.Recording.Overlong
import Wallpaper.Proofs.Recording.Progress
import Wallpaper.Proofs.Recording.RoundTrip
import Wallpaper.Proofs.Recording.Timeline
import Wallpaper.Proofs.Recording.Truncation
import Wallpaper.Proofs.Sink.Delivery
import Wallpaper.Proofs.Sink.Forwarding
import Wallpaper.Proofs.Sink.FullLog
import Wallpaper.Proofs.Sink.LogLines
import Wallpaper.Proofs.Text.JsonGrammar
import Wallpaper.Proofs.Wire.Cursor
import Wallpaper.Proofs.Wire.Fields
import Wallpaper.Proofs.Wire.Grammar
import Wallpaper.Recording.Decoder
import Wallpaper.Recording.Layout
import Wallpaper.Room
import Wallpaper.Simulation.Host
import Wallpaper.Simulation.Run
import Wallpaper.Simulation.Script
import Wallpaper.Sink.Fan
import Wallpaper.Sink.Outlet
import Wallpaper.Sink.Receiver
import Wallpaper.Text.Invisible
import Wallpaper.Text.Json
import Wallpaper.Text.Outline
import Wallpaper.Text.Quoted
import Wallpaper.Timeline
import Wallpaper.Tour
import Wallpaper.Wire.Codec
import Wallpaper.Wire.Reader
import Wallpaper.Wire.Utf8
