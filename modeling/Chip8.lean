import Chip8.KeyMap
import Chip8.Main
import Chip8.Sound.Beeper
import Chip8.Sound.Tone
import Chip8.Logger.Request
import Chip8.Host.Request
import Chip8.Render.Text
import Chip8.Text.Bytes
import Chip8.Proofs.FaultContract
import Chip8.Proofs.CallMatching
import Chip8.Proofs.Batching
import Chip8.Proofs.Iteration
import Chip8.Proofs.Footprint
import Chip8.Proofs.Halting
import Chip8.Proofs.Replay
import Chip8.Proofs.WriteFootprint
import Chip8.Proofs.Noninterference
import Chip8.Proofs.RandomStream
import Chip8.Proofs.DisplayChange
import Chip8.Proofs.TimerDecay
import Chip8.Proofs.DisplayReport
import Chip8.Proofs.HeadlessRun
import Chip8.Proofs.ClockFailure
import Chip8.Proofs.SpriteLoop
import Chip8.Proofs.SpriteAlgebra
import Chip8.Proofs.RegisterDump
import Chip8.Proofs.StackOverrun
import Chip8.Proofs.TickCount
import Chip8.Proofs.RegisterArithmetic
import Chip8.Proofs.ProgramImage
import Chip8.Proofs.KeyWait
import Chip8.Proofs.FilmGeometry
import Chip8.Proofs.LogLevels
import Chip8.Proofs.BeeperEdges
