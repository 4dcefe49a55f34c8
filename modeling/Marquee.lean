import Marquee.Artwork
import Marquee.Button.Animator
import Marquee.Button.Draw
import Marquee.Button.Face
import Marquee.Button.Handover
import Marquee.Button.Panel
import Marquee.Config.Basic
import Marquee.Config.Fault
import Marquee.Config.Files
import Marquee.Config.Reading
import Marquee.Controller.Basic
import Marquee.Controller.Buttons
import Marquee.Controller.Events
import Marquee.Controller.Registry
import Marquee.Controller.Stepping
import Marquee.Decimal.Nearest
import Marquee.Decimal.Shortest
import Marquee.Image.Bitmap
import Marquee.Image.Bytes
import Marquee.Image.Inflate
import Marquee.Image.Picture
import Marquee.Image.Png.Chunk
import Marquee.Image.Png.Decode
import Marquee.Image.Png.Encode
import Marquee.Image.Scale
import Marquee.Json.Fault
import Marquee.Json.Number
import Marquee.Json.Printer
import Marquee.Json.Reader
import Marquee.Json.Scan
import Marquee.Json.Skip
import Marquee.Json.Value
import Marquee.Log.Event
import Marquee.Log.Filter
import Marquee.Log.Line
import Marquee.Message.Inbound
import Marquee.Message.Outbound
import Marquee.NowPlaying
import Marquee.Periodic
import Marquee.Proofs.Artwork.Encoding
import Marquee.Proofs.Artwork.Squares
import Marquee.Proofs.Config.Keys
import Marquee.Proofs.Config.Meaning
import Marquee.Proofs.Decimal.Digits
import Marquee.Proofs.Deck.Apart
import Marquee.Proofs.Deck.Aspect
import Marquee.Proofs.Deck.Map
import Marquee.Proofs.Deck.Pauses
import Marquee.Proofs.Deck.Projection
import Marquee.Proofs.Deck.Pushes
import Marquee.Proofs.Deck.Refinement
import Marquee.Proofs.Deck.Stream
import Marquee.Proofs.Deck.Turns
import Marquee.Proofs.Drawing.Draw
import Marquee.Proofs.Drawing.Flag
import Marquee.Proofs.Drawing.LastImage
import Marquee.Proofs.Drawing.Publishing
import Marquee.Proofs.Drawing.Touches
import Marquee.Proofs.Handing.Custody
import Marquee.Proofs.Handing.Handover
import Marquee.Proofs.Image.Chunks
import Marquee.Proofs.Image.Parts
import Marquee.Proofs.Image.RoundTrip
import Marquee.Proofs.Image.Sound
import Marquee.Proofs.Image.Stored
import Marquee.Proofs.Json.Numbers
import Marquee.Proofs.Json.Printing
import Marquee.Proofs.Json.Skipping
import Marquee.Proofs.Json.Spelling
import Marquee.Proofs.Json.Strings
import Marquee.Proofs.Json.Values
import Marquee.Proofs.Log.Lines
import Marquee.Proofs.Message.Envelope
import Marquee.Proofs.Message.Inbound
import Marquee.Proofs.Message.Outbound
import Marquee.Proofs.Periodic.Stopping
import Marquee.Proofs.Sampler.Departure
import Marquee.Proofs.Sampler.Freshness
import Marquee.Proofs.Sampler.Holdings
import Marquee.Proofs.Sampler.LastSeen
import Marquee.Proofs.Sampler.Ledger
import Marquee.Proofs.Sampler.Listening
import Marquee.Proofs.Sampler.Media
import Marquee.Proofs.Sampler.Reading
import Marquee.Proofs.Sampler.Registrations
import Marquee.Proofs.Sampler.Steady
import Marquee.Proofs.Sampler.Syncing
import Marquee.Proofs.Sampler.Turns
import Marquee.Proofs.Sampler.Twins
import Marquee.Proofs.Sampler.Unlogged
import Marquee.Proofs.Scrolling.Cycle
import Marquee.Proofs.Scrolling.Walk
import Marquee.Proofs.Settings.Numbers
import Marquee.Proofs.Settings.Periods
import Marquee.Proofs.Settings.Sizes
import Marquee.Proofs.Text.Base64
import Marquee.Proofs.Toml.Lines
import Marquee.Proofs.Toml.Sections
import Marquee.Proofs.Toml.Spelling
import Marquee.Proofs.Toml.Words
import Marquee.Proofs.Traffic.Artwork
import Marquee.Proofs.Traffic.Calls
import Marquee.Proofs.Traffic.Flags
import Marquee.Proofs.Traffic.Jobs
import Marquee.Proofs.Traffic.Overlap
import Marquee.Proofs.Traffic.Ownership
import Marquee.Proofs.Traffic.Panel
import Marquee.Proofs.Traffic.Places
import Marquee.Proofs.Traffic.Registry
import Marquee.Proofs.Traffic.Sections
import Marquee.Proofs.Traffic.Sound
import Marquee.Sampler.Basic
import Marquee.Sampler.Notice
import Marquee.Sampler.Sample
import Marquee.Sampler.Sessions
import Marquee.Scroll
import Marquee.Session
import Marquee.Settings
import Marquee.Source
import Marquee.Subscription
import Marquee.Text.Base64
import Marquee.Text.Blank
import Marquee.Text.Quoted
import Marquee.Text.Unprinted
import Marquee.Toml.Document
import Marquee.Toml.Reader
import Marquee.Toml.Scan
import Marquee.Toml.Value
