import LineEcho.CommandLine.Invocation
import LineEcho.Config.Layers

/-!
# From a command line to the work that it stands for

The configuration comes from the file that the command line names, or else from the layers. The
options of `serve` and `send` replace settings of it, one by one, and leave all others alone.
-/

namespace LineEcho

/-- The service with the settings that were given replaced. -/
def ServeOptions.apply (options : ServeOptions) (config : ServiceConfig) : ServiceConfig where
  host := options.host.getD config.host
  port := options.port.getD config.port
  backlog := options.backlog.getD config.backlog
  bufferSize := options.bufferSize.getD config.bufferSize
  readTimeout := options.readTimeout <|> config.readTimeout
  writeTimeout := config.writeTimeout

/-- The client with the settings that were given replaced. Normalizing and capturing can only be
turned on. -/
def SendOptions.apply (options : SendOptions) (config : ClientConfig) : ClientConfig where
  host := options.host.getD config.host
  port := options.port.getD config.port
  connectTimeout := options.connectTimeout <|> config.connectTimeout
  writeTimeout := config.writeTimeout
  echoTimeout := config.echoTimeout
  lineEndings := if options.normalize then .normalize else config.lineEndings
  captureEcho := options.capture || config.captureEcho
  noDelay := config.noDelay

/-- A command with all the settings that it needs. -/
inductive Job where
  | serve (config : ServiceConfig)
  | send (config : ClientConfig) (file : String)
  | count (file : String)
  | showConfig (config : Config)
  | initConfig (directory : String)
  | showPaths
  | version
  deriving DecidableEq, Repr

/-- The work that a command stands for under a configuration. -/
def Command.job (config : Config) : Command → Job
  | serve options => .serve (options.apply config.service)
  | send options => .send (options.apply config.client) options.file
  | count file => .count file
  | .config .show => .showConfig config
  | .config (.init directory) => .initConfig directory
  | .config .path => .showPaths
  | version => .version

namespace Invocation

/-- The configuration that a command line starts from. -/
def config (fileSystem : FileSystem) (invocation : Invocation) : Except Error Config :=
  match invocation.configFile with
  | some path => Config.load fileSystem path
  | none => (ConfigLayers.discover fileSystem).load fileSystem

/-- The work that a command line stands for. Every command needs a configuration that loads. -/
def job (fileSystem : FileSystem) (invocation : Invocation) : Except Error Job :=
  (invocation.config fileSystem).map (fun config => invocation.command.job config)

end Invocation

end LineEcho
