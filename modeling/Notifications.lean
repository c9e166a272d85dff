import Notifications.Go.Values
import Notifications.Go.Strings
import Notifications.Interaction.Program
import Notifications.Services.EveryoneStrategy
import Notifications.Web.PreferenceFinder
import Notifications.Web.NotifyEmail
import Notifications.Web.Router
import Notifications.Fakes.Recorders
import Notifications.Testing.TruncateTables
import Notifications.Postal.LogLines
