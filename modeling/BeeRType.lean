import BeeRType.Base.Fifo
import BeeRType.Base.Recycling
import BeeRType.Base.Rounding
import BeeRType.Client.Conversation
import BeeRType.Client.Link
import BeeRType.Client.MainLoop
import BeeRType.Client.OwnPlayer
import BeeRType.Client.PacketLoss
import BeeRType.Client.Program
import BeeRType.Client.Rendering
import BeeRType.Client.Splitter
import BeeRType.Ecs.CollisionPass
import BeeRType.Ecs.PositionSystem
import BeeRType.Ecs.ProjectileSystem
import BeeRType.Ecs.Reuse
import BeeRType.Game.Actions
import BeeRType.Game.Boxes
import BeeRType.Game.DeadLists
import BeeRType.Game.EntityIds
import BeeRType.Game.Flight
import BeeRType.Game.Kills
import BeeRType.Game.Placed
import BeeRType.Game.Restart
import BeeRType.Game.Scores
import BeeRType.Game.Shooters
import BeeRType.Game.SpawnTotals
import BeeRType.Game.StoredGame
import BeeRType.Game.TeamScore
import BeeRType.Game.Timers
import BeeRType.Game.Tunnelling
import BeeRType.Game.Waves
import BeeRType.Network.Ports
import BeeRType.Server.Delivery
import BeeRType.Session.CatchUp
import BeeRType.Session.Drift
import BeeRType.Session.Mirror
import BeeRType.Session.Places
import BeeRType.World.ClientIds
import BeeRType.World.Crash
import BeeRType.World.Heartbeats
import BeeRType.World.Lifecycle
import BeeRType.World.OnScreen
import BeeRType.World.Packets
import BeeRType.World.Published
import BeeRType.World.Queues
import BeeRType.World.Quiescence
import BeeRType.World.Roster
import BeeRType.World.Shutdown
import BeeRType.World.SingleLoop
import BeeRType.World.Strangers
