import Chip8.Main
import Chip8.Proofs.Atomicity
import Chip8.Proofs.Safety
import Chip8.Proofs.Restart
import Chip8.Proofs.KeyWait
import Chip8.Proofs.Footprint
import Chip8.Proofs.Timing.Punctual
import Chip8.Proofs.Timing.Rate
import Chip8.Proofs.Timing.CatchUp
import Chip8.Proofs.Timing.Independence
import Chip8.Proofs.Calls
import Chip8.Proofs.Halt
import Chip8.Proofs.Timing.Origin
import Chip8.Proofs.Grammar
import Chip8.Proofs.Host.Keys
import Chip8.Proofs.Host.Tone
import Chip8.Proofs.Loading
import Chip8.Proofs.Faults
import Chip8.Proofs.Release
import Chip8.Proofs.Sprites
import Chip8.Proofs.LitCount
import Chip8.Proofs.Redrawing
import Chip8.Proofs.Flags
import Chip8.Proofs.Host.Speaker
import Chip8.Proofs.Inspection
import Chip8.Proofs.SaveRestore
import Chip8.Proofs.Timing.Timers
import Chip8.Proofs.Bare.Renderer
import Chip8.Proofs.Host.Screen
import Chip8.Proofs.Listing
import Chip8.Proofs.Fetching
