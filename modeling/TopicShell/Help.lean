import TopicShell.Color

/-!
# Help texts
-/

namespace TopicShell.Help

def title (text : String) : String :=
  Decorator.decorate ["7"] text

def bold (text : String) : String :=
  Decorator.decorate ["1"] text

def underline (text : String) : String :=
  Decorator.decorate ["4"] text

def ofLines (lines : List String) : String :=
  "\n".intercalate lines

/-- What the shell shows for its help command. -/
def commands : String := ofLines [
  title "Publishing a message",
  "",
  "  " ++ bold "pub [-r] [-q 0|1|2] <topic> <payload>",
  "",
  "    -r          retained",
  "    -q [0|1|2]  QualityOfService (QoS) level",
  "",
  "  " ++ underline "Publishing a multiline message",
  "",
  "    " ++ bold "pub my/topic <<EOF",
  "    " ++ bold "This is",
  "    " ++ bold "a multiline",
  "    " ++ bold "message",
  "    " ++ bold "EOF",
  "",
  "  " ++ underline "This is also useful if you don't want to handle argument escaping",
  "",
  "    " ++ bold "pub my/topic <<EOF",
  "    " ++ bold "\x7b\"key\": \"value\"\x7dEOF",
  "",
  title "Subscribe to a topic",
  "",
  "  " ++ bold "sub [-q 0|1|2] <topic> [...topicN]",
  "",
  "    -q [0|1|2]  QualityOfService (QoS) level",
  "",
  "  " ++ title "Command chaining",
  "    Incoming messages can be chained to external applications like in any other unix shell.",
  "",
  "    " ++ underline "Pass all incoming messages of topic test/topic to grep",
  "",
  "      " ++ bold "sub test/topic | grep \"Message\"",
  "",
  "    " ++ underline "Push stdout and stderr to the stdin of the next application",
  "",
  "      " ++ bold "sub test/topic | myExternalApplication |& grep \"Message\"",
  "",
  "    " ++ underline "Each incoming message starts the applications again.",
  "    " ++ underline "Stream all incoming messages to a single started application instead",
  "",
  "      " ++ bold "sub test/topic | grep \"Message\" > /tmp/test.msg &",
  "",
  "    " ++ underline "Write all incoming messages into a file",
  "",
  "      " ++ bold "sub test/topic >> /tmp/test.msg",
  "",
  title "Unsubscribe a topic",
  "",
  "  " ++ bold "unsub <topic> [...topicN]",
  "",
  title "List all subscribed topics",
  "",
  "  " ++ bold "list",
  "",
  title "List all available commands",
  "",
  "  " ++ bold ".ls",
  "",
  title "List all available macros",
  "",
  "  " ++ bold ".macro",
  "",
  title "List all available color schemas",
  "",
  "  " ++ bold ".lsc",
  "",
  title "Exit the shell",
  "",
  "  " ++ bold "exit",
  ""]

/-- What the command line shows about configuration files. -/
def configuration : String := ofLines [
  title "Setting files",
  "  All options can be written in separate environment files (one per environment) or for global settings",
  "  in the " ++ bold ".global.yml" ++ " file. These files must be stored inside the config directory",
  "  (" ++ bold "~/.mqtt-shell" ++ " or " ++ bold "~/.config/mqtt-shell" ++ ").",
  "",
  title "Environment configurations",
  "  Environment files hold predefined configurations, which is helpful for different mqtt environments.",
  "",
  "  For example (" ++ bold "example.yml" ++ "):",
  "",
  "    broker: tls://127.0.0.1:8883",
  "    ca: /tmp/my.ca",
  "    subscribe-qos: 1",
  "    publish-qos: 2",
  "    username: user",
  "    password: secret",
  "    client-id: my-mqtt-shell",
  "    clean-session: true",
  "    commands:",
  "      - \"sub #\"",
  "    non-interactive: false",
  "    history-file: /home/user/.mqtt-shell/history",
  "    prompt: \"\\033[36mmsh>\\033[0m \"",
  "    macros:",
  "      my-macro:",
  "        description: Awesome description of my macro",
  "        arguments:",
  "          - message",
  "        commands:",
  "          - pub test $1",
  "    color-blacklist:",
  "      - \"38;5;237\"",
  "",
  "  " ++ underline "$ mqtt-shell -e example",
  "",
  title "Macros",
  "  Macros are either a list of commands or a script. Macros can have their own arguments. They can be",
  "  defined in an environment file, the global settings (" ++ bold ".global.yml" ++ ") or the global macro",
  "  file (" ++ bold ".macros.yml" ++ ").",
  "",
  title "Macros - list of commands",
  "",
  "  my-macro:",
  "    description: Awesome description of my macro",
  "    arguments:",
  "      - message",
  "    varargs: true",
  "    commands:",
  "      - pub test $1",
  "",
  "    > sub test",
  "    > my-macro \"Message#1\" \"Message#2\"",
  "    test Message#1",
  "    test Message#2",
  "",
  "  $1..$N are replaced by the arguments, \\$ writes a literal dollar sign.",
  "",
  title "Macros - a script",
  "",
  "  Scripts are jinja2 templates. The macro arguments are available as " ++ bold "Arg1" ++ ", " ++ bold "Arg2" ++ " and so on.",
  "  Two functions can be called inside a script:",
  "",
  "    exec(cmdLine)            run the command line (pipes allowed) and return its output",
  "    log(format, args...)     write a printf-style message to the shell",
  "",
  "  my-macro:",
  "    description: Awesome description of my macro",
  "    arguments:",
  "      - message",
  "    varargs: true",
  "    script: |-",
  "      \x7b\x7b log(\"Publish to topic\") \x7d\x7d",
  "      pub test \x7b\x7b Arg1 \x7d\x7d \x7b\x7b exec(\"date\") | trim \x7d\x7d",
  ""]

end TopicShell.Help
