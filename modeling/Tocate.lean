import Tocate.Partida.Scores
import Tocate.Partida.Credit
import Tocate.Partida.Forfeit
import Tocate.Users.Identity
import Tocate.FindGame.Activity
import Tocate.FindGame.Facts
import Tocate.FindGame.Lobby
import Tocate.FindGame.Seats
import Tocate.FindGame.Search
import Tocate.FindGame.Exclusive
import Tocate.Transision.Activity
import Tocate.Transision.Answers
import Tocate.Game.Activity
import Tocate.Lib.Copies
import Tocate.MultPlayer.Records
import Tocate.Users.Additive
import Tocate.InicioSesion.Activities
import Tocate.InicioSesion.Entry
import Tocate.InicioSesion.Accounts
import Tocate.FindGame.Reply
import Tocate.MultPlayer.Arrival
import Tocate.MultPlayer.Clock
import Tocate.Game.Rounds
import Tocate.FindGame.Copies
import Tocate.FindGame.Cancelled
import Tocate.FindGame.Modes
import Tocate.FindGame.Device
import Tocate.FindGame.Launches
import Tocate.FindGame.Deletions
import Tocate.FindGame.Occupied
import Tocate.FindGame.Waiting
import Tocate.Lib.LifeCycle
import Tocate.Users.Presence
import Tocate.MultPlayer.Taps
import Tocate.MultPlayer.Orders
import Tocate.Partida.Floor
import Tocate.Partida.Payment
import Tocate.Transision.Questions
import Tocate.Game.Points
import Tocate.Lib.Countdown
import Tocate.Game.Time
import Tocate.Images.Loops
import Tocate.Lib.Cut
import Tocate.FindGame.Links
import Tocate.Images.Edges
import Tocate.InicioSesion.Menus
import Tocate.Lib.Settling
import Tocate.Partida.Agreement
import Tocate.Partida.Provenance
import Tocate.Users.Credits
import Tocate.Game.Display
import Tocate.FindGame.Intents
import Tocate.Transision.Online
import Tocate.Transision.Leaving
import Tocate.InicioSesion.Records
import Tocate.Lib.Ranking
import Tocate.Raking.Places
import Tocate.Raking.Match
import Tocate.Lib.Fields
import Tocate.Firestore.Beans
import Tocate.Firestore.Reads
import Tocate.FindGame.Listeners
import Tocate.FindGame.Crashes
import Tocate.FindGame.Meeting
