import KeyIndex.Directory.Partitions
import KeyIndex.Job
import KeyIndex.Proofs.Pass.Share
import KeyIndex.Rendezvous.Gathering
import KeyIndex.Table.Contents
import KeyIndex.Table.Form
import KeyIndex.Version
import KeyIndex.Proofs.Routing.Owner
import KeyIndex.Proofs.Pass.Split
import KeyIndex.Proofs.Worker.Call
import KeyIndex.Proofs.Worker.Make
import KeyIndex.Proofs.Worker.OneShot
import KeyIndex.Proofs.Worker.Output
import KeyIndex.Proofs.Table.Keys
import KeyIndex.Proofs.Rendezvous.Registry
import KeyIndex.Proofs.Worker.Next
import KeyIndex.Proofs.Crew.Basic
import KeyIndex.Proofs.Crew.Member
import KeyIndex.Proofs.Crew.Safety
import KeyIndex.Proofs.Crew.Post
import KeyIndex.Proofs.Table.Live
import KeyIndex.Proofs.Table.Reading
import KeyIndex.Proofs.Table.Replay
import KeyIndex.Proofs.Table.Alive
import KeyIndex.Proofs.Table.Later
import KeyIndex.Proofs.Pass.Survey
import KeyIndex.Proofs.Pass.Concern
import KeyIndex.Proofs.Pass.Later
import KeyIndex.Proofs.Worker.Way
import KeyIndex.Proofs.Worker.Fault
import KeyIndex.Proofs.Worker.Life
import KeyIndex.Proofs.Worker.Drop
import KeyIndex.Proofs.Worker.Questions
import KeyIndex.Proofs.Worker.Stranger
import KeyIndex.Proofs.Table.Compaction
import KeyIndex.Proofs.Worker.Rounds
import KeyIndex.Proofs.Rendezvous.Peers
import KeyIndex.Proofs.Regex.Matcher
import KeyIndex.Proofs.Regex.Lexis
import KeyIndex.Proofs.Regex.Bracket
import KeyIndex.Proofs.Regex.Parser
import KeyIndex.Proofs.Regex.Group
import KeyIndex.Proofs.Regex.Filter
import KeyIndex.Proofs.Routing.Range
import KeyIndex.Proofs.Routing.Mixing
import KeyIndex.Proofs.Rendezvous.Publication
import KeyIndex.Proofs.Routing.Polynomial
import KeyIndex.Proofs.Table.Resolution
import KeyIndex.Proofs.Table.Extraction
import KeyIndex.Proofs.Worker.Tally
import KeyIndex.Proofs.Worker.Emitter
import KeyIndex.Proofs.Directory.Metadata
import KeyIndex.Proofs.Routing.Layout
import KeyIndex.Proofs.Rendezvous.Roll
import KeyIndex.Proofs.Settings.Defaults
import KeyIndex.Proofs.Outlet.Emission
import KeyIndex.Proofs.Table.Chronology
