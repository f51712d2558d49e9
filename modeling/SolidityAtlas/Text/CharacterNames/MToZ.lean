/-! The names of the characters of Unicode 14 that start with the letters from M to Z. -/

namespace SolidityAtlas.Text.CharacterNames

/-- The names from M to Z in increasing order, each without what it has in common with the one in
front of it. The small letters in front of an entry add up to the length of the common start: `a` is
none, `z` is 25.
-/
def namesMToZ : List String :=
  ["aMACRONcGEdIC WANDdNETcHAJANI ABBREVIATION SIGNjLETTER AqBArHAqCArHAqDArDAsHArHAqEqGArHAqHAqI",
   "qJArHAqKArHAqLAqMAqNArNArYAqOqPArHAqRArRAqSAqTArHArTAsHAqUqVAkIGATURE SHRIjSECTION MARK",
   "kIGN NUKTAdJONG TILE AUTUMNnBACKpMBOOnCHRYSANTHEMUMnEAST WINDoIGHT OF BAMBOOSwCHARACTERS",
   "xIRCLESnFIVE OF BAMBOOSvCHARACTERSwIRCLESoOUR OF BAMBOOSvCHARACTERSwIRCLESnGREEN DRAGONnJOKER",
   "nNINE OF BAMBOOSvCHARACTERSwIRCLESoORTH WINDnONE OF BAMBOOSuCHARACTERSvIRCLESoRCHIDnPLUM",
   "nRED DRAGONnSEVEN OF BAMBOOSwCHARACTERSxIRCLESoIX OF BAMBOOSuCHARACTERSvIRCLESoOUTH WINDoPRING",
   "oUMMERnTHREE OF BAMBOOSwCHARACTERSxIRCLESoWO OF BAMBOOSuCHARACTERSvIRCLESnWEST WIND",
   "oHITE DRAGONoINTERcKASAR ANGKAiEND OF SECTIONiLETTER ApBApCApDApGApJApKApLApMApNAqGAqYApPApRA",
   "pSApTApVApYAiPASSIMBANGiVOWEL SIGN EtItOtUcLAYALAM AU LENGTH MARKkDATE MARKlIGIT EIGHTqFIVE",
   "rOURqNINEqONEqSEVENrIXqTHREErWOqZEROkFRACTION ONE EIGHTHxFIFTHyORTIETHxHALF",
   "xONE-HUNDRED-AND-SIXTIETHxQUARTERxSIXTEENTHxTENTHyWENTIETHtTHREE EIGHTIETHSzQUARTERS",
   "zSIXTEENTHSzTWENTIETHSkLETTER AsAsIsRCHAIC IIsUrBAsHArCAsHAtILLU KyLzLzbLyMyNzNyRRyYrDAsDAtHA",
   "sHAsOT REPHrEsErGAsHArHArIsIrJAsHArKAsHArLAsLAtLArMArNAsGAsNAtNAsYArOsOrPAsHArRAsRArSAsHAsSA",
   "rTAsHAsTAtHAtTArUsUrVAsEDIC ANUSVARAsOCALIC LzbLzRzbRrYAkNUMBER ONE HUNDREDvTHOUSANDrTEN",
   "kSIGN ANUSVARAqVAGRAHApCANDRABINDUqIRCULAR VIRAMAqOMBINING ANUSVARA ABOVEpPARA",
   "pVERTICAL BAR VIRAMAqIRAMArSARGAkVOWEL SIGN AAwIwUvEwEvIwIvOwOvUwUvVOCALIC LzfLzeRzfR",
   "dE AND FEMALE SIGNfSIGNfWITH STROKE AND MALE AND FEMALE SIGNrSIGNdTESE CROSScMMOTHcN",
   "d AND WOMAN HOLDING HANDSeDANCINGeIN BUSINESS SUIT LEVITATINGhTUXEDOeWITH GUA PI MAOjTURBAN",
   "dAT SIGNdDAIC AFFRICATION MARKiGEMINATION MARKiLETTER ABqDqGqHqINqKrSAqLqMqNqPqQqRqSrHrZqTrTqZ",
   "pDUSHENNApHALQApINqTpKADpUSHENNAiPUNCTUATIONiVOCALIZATION MARKdGO",
   "dICHAEAN ABBREVIATION MARK ABOVEzeBELOWlLETTER AAYINtLEPHtYINsBETHtHETHsDALETHtHAMEDHsFE",
   "sGHIMELtIMELsHEuTHsJAYINtHAYINsKAPHtHAPHsLAMEDHsMEMsNUNsPEsQHOPHtOPHsRESHsSADHEuMEKHtHINtSHIN",
   "sTAWtETHtHAMEDHsWAWsXAPHtOPHsYODHsZAYINtHAYINlNUMBER FIVEsONEv HUNDREDsTENtWENTY",
   "lPUNCTUATION DOTzb WITHIN DOTzUBLE DOT WITHIN DOTxFLEURONxLINE FILLERxSTARxTWO DOTSlSIGN UD",
   "dS SHOEdTELPIECE CLOCKdUAL WHEELCHAIRcP SYMBOL FOR LIGHTHOUSEdLE LEAFcRCHEN HEAD MARK",
   "iLETTER -ApApBApCAqHApDAqZApGApHApJApKAqHApLApMApNAqGAqYApPAqHApRApSAqHApTAqHAqSArHApWApYApZA",
   "qHAiMARK SHADiSIGN ANUSVARAnCANDRABINDUjUBJOINED LETTER AzBAzCAzbHAzDAzbZAzGAzHAzJAzKAzbHAzLA",
   "zMAzNAzbGAzbYAzPAzbHAzRAzSAzbHAzTAzbHAzbSAzcHAzWAzYAzZAzbHAiVOWEL SIGN AAtEtItOtUdRIAGE SYMBOL",
   "dTIAL ARTS UNIFORMcSARAM GONDI DIGIT EIGHTuFIVEvOURuNINEuONEuSEVENvIXuTHREEvWOuZEROoLETTER AwA",
   "wIwUvBAwHAvCAwHAvDAwDAxHAwHAvEvGAwHAvHAvIwIvJAwHAwNYAvKAwHAwSSAvLAwLAvMAvNAwGAwNAwYAvOvPAwHA",
   "vRAvSAwHAwSAvTAwHAwRAwTAxHAvUwUvVAvYAoRA-KARApEPHAoSIGN ANUSVARAtCANDRAtHALANTAtNUKTAtVISARGA",
   "oVIRAMApOWEL SIGN AAzbIzbUzEzIzbIzOzUzbUzVOCALIC RdCULINE ORDINAL INDICATORdK WORK SYMBOL",
   "dU MARKcTE DRINKdHEMATICAL BOLD CAPITAL AzcLPHAzbBzcETAzbCzcHIzbDzcELTAzcIGAMMAzbEzcPSILONzcTA",
   "zbFzbGzcAMMAzbHzbIzcOTAzbJzbKzcAPPAzbLzcAMDAzbMzcUzbNzcUzbOzcMEGAzdICRONzbPzcHIzcIzcSIzbQzbR",
   "zcHOzbSzcIGMAzbTzcAUzcHETAzg SYMBOLzbUzcPSILONzbVzbWzbXzcIzbYzbZzcETAsDIGIT EIGHTyFIVEzOUR",
   "yNINEyONEySEVENzIXyTHREEzWOyZEROsEPSILON SYMBOLsFRAKTUR CAPITAL AzjBzjCzjDzjEzjFzjGzjHzjIzjJ",
   "zjKzjLzjMzjNzjOzjPzjQzjRzjSzjTzjUzjVzjWzjXzjYzjZzbSMALL AzhBzhCzhDzhEzhFzhGzhHzhIzhJzhKzhLzhM",
   "zhNzhOzhPzhQzhRzhSzhTzhUzhVzhWzhXzhYzhZsITALIC CAPITAL AzjLPHAziBzjETAziCzjHIziDzjELTAziE",
   "zjPSILONzjTAziFziGzjAMMAziHziIzjOTAziJziKzjAPPAziLzjAMDAziMzjUziNzjUziOzjMEGAzkICRONziPzjHIzjI",
   "zjSIziQziRzjHOziSzjIGMAziTzjAUzjHETAzn SYMBOLziUzjPSILONziVziWziXzjIziYziZzjETAzEPSILON SYMBOL",
   "zKAPPA SYMBOLzNABLAzPARTIAL DIFFERENTIALzbHI SYMBOLzbI SYMBOLzRHO SYMBOLzSMALL AzhLPHAzgBzhETA",
   "zgCzhHIzgDzhELTAzgEzhPSILONzhTAzgFzhINAL SIGMAzgGzhAMMAzgHzgIzhOTAzgJzgKzhAPPAzgLzhAMDAzgMzhU",
   "zgNzhUzgOzhMEGAziICRONzgPzhHIzhIzhSIzgQzgRzhHOzgSzhIGMAzgTzhAUzhHETAzgUzhPSILONzgVzgWzgXzhIzgY",
   "zgZzhETAzTHETA SYMBOLsKAPPA SYMBOLsNABLAsPARTIAL DIFFERENTIALtHI SYMBOLtI SYMBOLsRHO SYMBOL",
   "sSCRIPT CAPITAL AziBziCziDziEziFziGziHziIziJziKziLziMziNziOziPziQziRziSziTziUziVziWziXziYziZ",
   "zSMALL AzgBzgCzgDzgEzgFzgGzgHzgIzgJzgKzgLzgMzgNzgOzgPzgQzgRzgSzgTzgUzgVzgWzgXzgYzgZtMALL A",
   "zLPHAyBzETAyCzHIyDzELTAzIGAMMAyEzPSILONzTAyFzINAL SIGMAyGzAMMAyHyIzOTAyJyKzAPPAyLzAMDAyMzUyNzU",
   "yOzMEGAzbICRONyPzHIzIzSIyQyRzHOySzIGMAyTzAUzHETAyUzPSILONyVyWyXzIyYyZzETAsTHETA SYMBOL",
   "nDOUBLE-STRUCK CAPITAL AzkBzkDzkEzkFzkGzkIzkJzkKzkLzkMzkOzkSzkTzkUzkVzkWzkXzkYzcDIGIT EIGHT",
   "ziFIVEzjOURziNINEziONEziSEVENzjIXziTHREEzjWOziZEROzcSMALL AziBziCziDziEziFziGziHziIziJziKziL",
   "ziMziNziOziPziQziRziSziTziUziVziWziXziYziZnFALLING DIAGONALoRAKTUR CAPITAL AzeBzeDzeEzeFzeGzeJ",
   "zeKzeLzeMzeNzeOzePzeQzeSzeTzeUzeVzeWzeXzeYvSMALL AzcBzcCzcDzcEzcFzcGzcHzcIzcJzcKzcLzcMzcNzcO",
   "zcPzcQzcRzcSzcTzcUzcVzcWzcXzcYzcZnITALIC CAPITAL AzeLPHAzdBzeETAzdCzeHIzdDzeELTAzdEzePSILON",
   "zeTAzdFzdGzeAMMAzdHzdIzeOTAzdJzdKzeAPPAzdLzeAMDAzdMzeUzdNzeUzdOzeMEGAzfICRONzdPzeHIzeIzeSIzdQ",
   "zdRzeHOzdSzeIGMAzdTzeAUzeHETAzi SYMBOLzdUzePSILONzdVzdWzdXzeIzdYzdZzeETAuEPSILON SYMBOL",
   "uKAPPA SYMBOLuNABLAuPARTIAL DIFFERENTIALvHI SYMBOLvI SYMBOLuRHO SYMBOLuSMALL AzcLPHAzbBzcETA",
   "zbCzcHIzbDzcELTAzcOTLESS IzjJzbEzcPSILONzcTAzbFzcINAL SIGMAzbGzcAMMAzbIzcOTAzbJzbKzcAPPAzbL",
   "zcAMDAzbMzcUzbNzcUzbOzcMEGAzdICRONzbPzcHIzcIzcSIzbQzbRzcHOzbSzcIGMAzbTzcAUzcHETAzbUzcPSILONzbV",
   "zbWzbXzcIzbYzbZzcETAuTHETA SYMBOLnLEFT ANGLE BRACKETsDOUBLE ANGLE BRACKET",
   "sFLATTENED PARENTHESISsWHITE SQUARE BRACKETyTORTOISE SHELL BRACKETnMONOSPACE CAPITAL AzgBzgC",
   "zgDzgEzgFzgGzgHzgIzgJzgKzgLzgMzgNzgOzgPzgQzgRzgSzgTzgUzgVzgWzgXzgYzgZxDIGIT EIGHTzeFIVEzfOUR",
   "zeNINEzeONEzeSEVENzfIXzeTHREEzfWOzeZEROxSMALL AzeBzeCzeDzeEzeFzeGzeHzeIzeJzeKzeLzeMzeNzeOzeP",
   "zeQzeRzeSzeTzeUzeVzeWzeXzeYzeZnRIGHT ANGLE BRACKETtDOUBLE ANGLE BRACKETtFLATTENED PARENTHESIS",
   "tWHITE SQUARE BRACKETzTORTOISE SHELL BRACKETpSING DIAGONALnSANS-SERIF BOLD CAPITAL AznLPHAzmB",
   "znETAzmCznHIzmDznELTAzmEznPSILONznTAzmFzmGznAMMAzmHzmIznOTAzmJzmKznAPPAzmLznAMDAzmMznUzmNznU",
   "zmOznMEGAzoICRONzmPznHIznIznSIzmQzmRznHOzmSznIGMAzmTznAUznHETAzr SYMBOLzmUznPSILONzmVzmWzmXznI",
   "zmYzmZznETAzeDIGIT EIGHTzkFIVEzlOURzkNINEzkONEzkSEVENzlIXzkTHREEzlWOzkZEROzeEPSILON SYMBOL",
   "zeITALIC CAPITAL AzuLPHAztBzuETAztCzuHIztDzuELTAztEzuPSILONzuTAztFztGzuAMMAztHztIzuOTAztJztK",
   "zuAPPAztLzuAMDAztMzuUztNzuUztOzuMEGAzvICRONztPzuHIzuIzuSIztQztRzuHOztSzuIGMAztTzuAUzuHETA",
   "zy SYMBOLztUzuPSILONztVztWztXzuIztYztZzuETAzlEPSILON SYMBOLzlKAPPA SYMBOLzlNABLA",
   "zlPARTIAL DIFFERENTIALzmHI SYMBOLzmI SYMBOLzlRHO SYMBOLzlSMALL AzsLPHAzrBzsETAzrCzsHIzrDzsELTA",
   "zrEzsPSILONzsTAzrFzsINAL SIGMAzrGzsAMMAzrHzrIzsOTAzrJzrKzsAPPAzrLzsAMDAzrMzsUzrNzsUzrOzsMEGA",
   "ztICRONzrPzsHIzsIzsSIzrQzrRzsHOzrSzsIGMAzrTzsAUzsHETAzrUzsPSILONzrVzrWzrXzsIzrYzrZzsETA",
   "zlTHETA SYMBOLzeKAPPA SYMBOLzeNABLAzePARTIAL DIFFERENTIALzfHI SYMBOLzfI SYMBOLzeRHO SYMBOL",
   "zeSMALL AzlLPHAzkBzlETAzkCzlHIzkDzlELTAzkEzlPSILONzlTAzkFzlINAL SIGMAzkGzlAMMAzkHzkIzlOTAzkJ",
   "zkKzlAPPAzkLzlAMDAzkMzlUzkNzlUzkOzlMEGAzmICRONzkPzlHIzlIzlSIzkQzkRzlHOzkSzlIGMAzkTzlAUzlHETA",
   "zkUzlPSILONzkVzkWzkXzlIzkYzkZzlETAzeTHETA SYMBOLyCAPITAL AzhBzhCzhDzhEzhFzhGzhHzhIzhJzhKzhLzhM",
   "zhNzhOzhPzhQzhRzhSzhTzhUzhVzhWzhXzhYzhZyDIGIT EIGHTzfFIVEzgOURzfNINEzfONEzfSEVENzgIXzfTHREE",
   "zgWOzfZEROyITALIC CAPITAL AzoBzoCzoDzoEzoFzoGzoHzoIzoJzoKzoLzoMzoNzoOzoPzoQzoRzoSzoTzoUzoVzoW",
   "zoXzoYzoZzgSMALL AzmBzmCzmDzmEzmFzmGzmHzmIzmJzmKzmLzmMzmNzmOzmPzmQzmRzmSzmTzmUzmVzmWzmXzmYzmZ",
   "ySMALL AzfBzfCzfDzfEzfFzfGzfHzfIzfJzfKzfLzfMzfNzfOzfPzfQzfRzfSzfTzfUzfVzfWzfXzfYzfZ",
   "oCRIPT CAPITAL AzdCzdDzdGzdJzdKzdNzdOzdPzdQzdSzdTzdUzdVzdWzdXzdYzdZuSMALL AzbBzbCzbDzbFzbHzbI",
   "zbJzbKzbLzbMzbNzbPzbQzbRzbSzbTzbUzbVzbWzbXzbYzbZcXIMIZEcYAN NUMERAL EIGHTtEENpLEVENoFIFTEENqVE",
   "pOURsTEENoNINEsTEENoONEoSEVENtTEENpIXrTEENoTENpHIRTEENqREEpWELVEqOoZERObEASURED ANGLE",
   "o OPENING LEFTpWITH OPEN ARM ENDING IN ARROW POINTING DOWN AND LEFTzznRIGHTzzeLEFT AND DOWN",
   "zznUPzzeRIGHT AND DOWNzzoUPzzeUP AND LEFTzzlRIGHTjBYjRIGHT ANGLE WITH DOTdT ON BONE",
   "cCHANICAL ARMlLEGcDEFAIDRIN CAPITAL LETTER AzdIzdTIUzcBzcCzcDzcEzcFzcGzcHzdPzcIzcJzcKzdPzcLzcM",
   "zcNzdGzdYzcOzdEzcPzcQzcRzcSzcTzcUzcVzcWzcXzcYzdUzcZnOMMAmDIGIT EIGHTsFIVEtOURsNINEsONE",
   "v ALTERNATE FORMsSEVENtIXsTHREEx ALTERNATE FORMtWOv ALTERNATE FORMsZEROmEXCLAMATION OH",
   "mFULL STOPmNUMBER EIGHTEENuLEVENtFIFTEENuOURTEENtNINETEENtSEVENTEENuIXTEENtTENuHIRTEENuWELVE",
   "mSMALL LETTER AzbIzbTIUzBzCzDzEzFzGzHzbPzIzJzKzbPzLzMzNzbGzbYzOzbEzPzQzRzSzTzUzVzWzXzYzbUzZ",
   "nYMBOL AIVAdIEVAL COMMAjEXCLAMATION MARKjQUESTION MARKeUM BLACK CIRCLEiOLD WHITE CIRCLE",
   "hEIGHT POINTED BLACK STARnSPOKED ASTERISKhFIVE SPOKED ASTERISK",
   "iLATTENED LEFT PARENTHESIS ORNAMENTrRIGHT PARENTHESIS ORNAMENTiOUR POINTED BLACK STAR",
   "uPINWHEEL STARhGREEK CROSShLEFT CURLY BRACKET ORNAMENTmPARENTHESIS ORNAMENT",
   "l-POINTING ANGLE BRACKET ORNAMENThMATHEMATICAL SPACEhRIGHT CURLY BRACKET ORNAMENT",
   "nPARENTHESIS ORNAMENTm-POINTING ANGLE BRACKET ORNAMENThSALTIREiHADEiIX POINTED BLACK STAR",
   "lSPOKED ASTERISKiMALL WHITE CIRCLEhTHREE POINTED BLACK STARvPINWHEEL STARhVERTICAL BAR",
   "hWHITE CIRCLEnSQUAREcETEI MAYEK AHANG KHUDAMoNJIoPUN IYEKnCHEIKHANtEInDIGIT EIGHTtFIVEuOUR",
   "tNINEtONEtSEVENuIXtTHREEuWOtZEROnLETTER ATIYAuBAvHAMuCHAwILuDDAwHAvHOUvILuEuGHOUvOKuHUKuI",
   "v LONSUMuJHAMvILuKHOUvOKx LONSUMuLAIx LONSUMuMITx LONSUMuNAw LONSUMvGOUy LONSUMvNAvYAuOuPA",
   "w LONSUMvHAMuRAIuSAMvHAvSAuTHOUvILx LONSUMvTAwHAuUNuWAIuYANGoUM IYEKnSYLLABLE REPETITION MARK",
   "nVIRAMAoOWEL SIGN AAIzbUzNAPzUyCHEINAPyIIzNAPyNUNGyONAPySOUNAPyUNAPzUyVISARGAyYENAP",
   "nWORD REPETITION MARKcLONdTING FACEcMOcNDE KIKAKUI COMBINING NUMBER HUNDRED THOUSANDSznS",
   "zgMILLIONSzgTEENSziN THOUSANDSzjSzhHOUSANDSoDIGIT EIGHTuFIVEvOURuNINEuONEuSEVENvIXuTHREEvWO",
   "oSYLLABLE M001 KIzb2 KAzb3 KUzb4 WIzb5 WAzb6 WUzb7 MINzb8 MANzb9 MUNz10 BIzb1 BAzb2 BUzb3 I",
   "zb4 Azb5 Uzb6 DIzb7 DAzb8 DUzb9 SIz20 SAzb1 SUzb2 TIzb3 TAzb4 TUzb5 LIzb6 LAzb7 LUzb8 JIzb9 JA",
   "z30 JUzb1 YIzb2 YAzb3 YUzb4 FIzb5 FAzb6 FUzb7 NINzb8 NANzb9 NUNz40 HEEzb1 HAzb2 HOOzb3 NGGA",
   "zb4 KPEEzb5 WOzb6 HUANzb7 MBEEzb8 KOzb9 WVAz50 PUzb1 PEzb2 HENzb3 HINzb4 LOOzb5 TEzb6 GBA",
   "zb7 NGONzb8 NYANzb9 MENz60 NYONzb1 WVIzb2 MBAzb3 JOzb4 NDOzb5 KEEzb6 POzb7 NDOOzb8 PIzb9 TO",
   "z70 GBOzb1 GBOOzb2 MBEzb3 LEzb4 KPUzb5 FEzb6 KOOzb7 VOzb8 FEEzb9 SOz80 YEzb1 PEEzb2 NGGU",
   "zb3 HEEIzb4 LEEzb5 VEzb6 LONG NGGEzb7 HUNzb8 FOzb9 DEEz90 NGGIzb1 TEEzb2 KPAzb3 GBEEzb4 MON",
   "zb5 KEzb6 HEzb7 BEzb8 NYENzb9 PAy100 Ezb1 FANzb2 POOzb3 BOOzb4 TOOzb5 LONG MBOOzb6 LONG NGGOO",
   "zb7 GBEzb8 KPEzb9 YEEz10 LONG LEzb1 GAzb2 KPOOzb3 JEzb4 WOOzb5 NGGEEzb6 SEzb7 NENzb8 WEzb9 NDE",
   "z20 NGGOzb1 YOzb2 MBUzb3 NDIzb4 GBIzb5 NDUzb6 WEEzb7 NGGUAzb8 HOOUzb9 NDAz30 HANzb1 INzb2 KPI",
   "zb3 FOOzb4 NJOOzb5 INzb6 SOOzb7 EIzb8 BOzb9 WVEz40 HOzb1 YOOzb2 LONG MBOzb3 WEIzb4 VOOzb5 MBI",
   "zb6 NGGEzb7 Ozb8 GBUzb9 NJEEz50 BEEzb1 VUzb2 NJAzb3 LOzb4 MUANzb5 GIzb6 NGGOOzb7 JEEzb8 KPO",
   "zb9 NGGAAz60 JOOzb1 LONG MBEzb2 SEEzb3 EEzb4 NYINzb5 OOzb6 GUEIzb7 GUANzb8 GUzb9 NONz70 NYUN",
   "zb1 RAzb2 MBOOzb3 VEEzb4 MBOzb5 LONG JOzb6 HIzb7 NGUANzb8 ENzb9 KUAz80 DOOzb1 DOzb2 VI",
   "zb3 LONG NGGOzb4 NGENzb5 VAzb6 HUzb7 MBUUzb8 MBEEzb9 MUENz90 GEEzb1 NDEEzb2 NJUzb3 HONzb4 WUI",
   "zb5 ANzb6 SIAzb7 FUAdORAH WITH NINE BRANCHESdS SYMBOLcRCURY",
   "dOITIC CURSIVE FRACTION EIGHT TWELFTHSzcLEVEN TWELFTHSzbFIVE TWELFTHSzcOUR TWELFTHS",
   "zbNINE TWELFTHSzbONE HALFzfTWELFTHzbSEVEN TWELFTHSzcIX TWELFTHSzbTEN TWELFTHSzcHREE TWELFTHS",
   "zcWO TWELFTHSrLETTER AzRCHAIC SAyBAyDAyEyHHAyIyKAzHAyLAyMAyNAzEyOyPAyQAyRAySAzEyTAzEzOyWAyYA",
   "sOGOGRAM IMNzbRMTrNUMBER EIGHTze HUNDREDzm THOUSANDzfTHOUSANDzeY THOUSANDyFIFTYze THOUSANDzbVE",
   "zd HUNDREDzl THOUSANDzeTHOUSANDzORTYze THOUSANDzbURzd HUNDREDzl THOUSANDzeTHOUSANDyNINE",
   "zd HUNDREDzl THOUSANDzeTHOUSANDzdTY THOUSANDyONEzc HUNDREDzk THOUSANDzdTHOUSANDySEVEN",
   "ze HUNDREDzm THOUSANDzfTHOUSANDzeTYzg THOUSANDzIXzc HUNDREDzk THOUSANDzdTHOUSANDzcTY",
   "ze THOUSANDyTENzc THOUSANDzHIRTYzf THOUSANDzbREEze HUNDREDzm THOUSANDzfTHOUSANDzWENTY",
   "zf THOUSANDzbOzc HUNDREDzk THOUSANDzdTHOUSANDjHIEROGLYPHIC LETTER AzeBAzg-2zeDAzeEzeHHAzeIzeKA",
   "zfHAzeLAzeMAzeNAzg-2zfEzg-2zeOzePAzeQAzeRAzg-2zeSAzg-2zfEzeTAzg-2zfEzg-2zfOzeWAzeYA",
   "wSYMBOL VIDJzi-2dPERSONcSSAGE WAITINGcTRICAL BREVEjLONG OVER SHORTtTWO SHORTSjPENTASEME",
   "jSHORT OVER LONGjTETRASEMEkRISEMEkWO SHORTS JOINEDuOVER LONGeObIAO LETTER AHnRCHAIC MAuNAvGA",
   "uZZAmBAnRImDAnDAnLHApYAnZAoHAoYIoZAmFAmGAnHAoHAmHAnHAmKAmLAnHAoYAnYAmMAnHAmNAoSALIZATIONnGAoHA",
   "nHAnNAoHAnYAoHAmPAnLAmQAnGAmREFORMED TONE-1zb2zb4zb5zb6zb8wSHAnTEmSAnHAnSAnYImTAnEnLHApYA",
   "nONE-2r3r4r5r6r7r8nSAoEoHAoSAnTAmVAnFAmWAmXAmYI DZHApKApNNApPApTAqSArHAqTAmZAnHAnSAoHAnZAoSA",
   "pYAoYAfSIGN ASPIRATIONkCONSONANT MODIFIER BARkREFORMED ASPIRATIONtVOICINGfTONE ABOVEkBELOW",
   "kRIGHTkTOP RIGHTfVOWEL SIGN ArArEsErHHrIrNsGrUqErArIrNsGrRsRqIrAsNtGrErGrIrNGrOsNGrUqNrGqOrER",
   "sYrGrOrUqROUNDED ERzbRqUrAsNtGrEIrIrNGrOGrUqVWqWrOqYrIrUIcCR DASH SYMBOLfON US SYMBOLeO SIGN",
   "fBEfPHONEfSCOPEcDDLE DOThTHIRD WHITE RIGHT POINTING INDEXdLINE HORIZONTAL ELLIPSIS",
   "cLITARY HELMETjMEDALdKY WAYdL SIGNcNIBUSeDISCeMIZEdUS SIGNk IN TRIANGLElWITH COMMA ABOVE",
   "qDOT BELOWqFALLING DOTSqRISING DOTSgTILDEf-OR-PLUS SIGNdYcRRORg BALLbMSPbOBILE PHONEm OFF",
   "nWITH RIGHTWARDS ARROW AT LEFTcDELSeRN PENTATHLONdI ABBREVIATION SIGNfDANDAgIGIT EIGHTlFIVE",
   "mOURlNINElONElSEVENmIXlTHREEmWOlZEROgOUBLE DANDAfLETTER AnAnInUmBAnHAmCAnHAmDAnDAoHAnHAmEmGA",
   "nHAmHAmInImJAnHAmKAnHAmLAnLAmMAmNAnGAnNAnYAmOmPAnHAmRAmSAnHAnSAmTAnHAnTAoHAmUnUmVAnOCALIC LvL",
   "uRvRmYAfSIGN ANUSVARAlRDHACANDRAkHUVAkVIRAMAmSARGAfVOWEL SIGN AArIrUqEqIrIqOqUrUqVOCALIC LzLyR",
   "zReFIER BREVE WITH INVERTED BREVEjLETTER ACUTE ACCENTrLVEOLAR CLICKrPOSTROPHEqBEGIN HIGH TONE",
   "wLOW TONErILABIAL CLICKqCAPITAL AzEyBzARRED ByCyDyEyFyGyHz WITH STROKEyIyJyKyLyMyNyOzUyPyQyR",
   "zEVERSED EziNyTyUyVyWrENTRED LEFT HALF RINGyRIGHT HALF RINGrHINESE TONE YANG PINGzjQUzjRU",
   "zjSHANGzfIN PINGziQUziRUziSHANGrIRCUMFLEX ACCENTrOLONrROSS ACCENTrYRILLIC ENzHARD SIGN",
   "zSOFT SIGNqDENTAL CLICKrOT HORIZONTAL BARuSLASHuVERTICAL BARsUBLE APOSTROPHExPRIME",
   "sWN ARROWHEADvTACKqEND HIGH TONEuLOW TONErXTRA-HIGH DOTTED LEFT-STEM TONE BARzjTONE BAR",
   "zcLEFT-STEM TONE BARzcTONE BARwLOW DOTTED LEFT-STEM TONE BARziTONE BARzbLEFT-STEM TONE BAR",
   "zbTONE BARqGEORGIAN NARrLOTTAL STOPzd WITH STROKErRAVE ACCENTqHALF TRIANGULAR COLON",
   "rIGH DOTTED LEFT-STEM TONE BARzdTONE BARvLEFT-STEM TONE BARvTONE BARqLATERAL CLICK",
   "rEFT ARROWHEADvHALF RINGvTACKrOW ACUTE ACCENTuCIRCUMFLEX ACCENTuDOTTED LEFT-STEM TONE BAR",
   "zcTONE BARwWN ARROWHEADuGRAVE ACCENTuINVERTED EXCLAMATION MARKuLEFT ARROWzfHEADy-STEM TONE BAR",
   "uMACRONuRIGHT ARROWHEADwNGuTILDEvONE BARuUP ARROWHEADuVERTICAL LINEtER RIGHT CORNER ANGLE",
   "qMACRONrID DOTTED LEFT-STEM TONE BARzcTONE BARuLEFT-STEM TONE BARuTONE BAR",
   "tDLE DOUBLE ACUTE ACCENTzfGRAVE ACCENTxGRAVE ACCENTsNUS SIGNqOPEN SHELFqPLUS SIGNrRIME",
   "qRAISED COLONxDOWN ARROWxEXCLAMATION MARKxINVERTED EXCLAMATION MARKxUP ARROW",
   "rETROFLEX CLICK WITH RETROFLEX HOOKsVERSED COMMAzGLOTTAL STOPzm WITH STROKErHOTIC HOOK",
   "rIGHT ARROWHEADwHALF RINGwTACKqSHELFsORT EQUALS SIGNrMALL AxExINxLPHAwBx WITH HOOKxARRED OxETA",
   "xOTTOM HALF OwCx WITH CURLxAPITAL AAzfBzfGzg WITH HOOKzfHzfIzg WITH STROKEzgNVERTED RzfL",
   "zg WITH BELTzfNzfOEzfRzfUzfYxHIxLOSED OMEGAzeREVERSED OPEN EwDx WITH HOOKzi AND TAILzeTAIL",
   "xELTAyZH DIGRAPHxOTLESS J WITH STROKEzs AND HOOKxZ DIGRAPHzh WITH CURLznRETROFLEX HOOKwExNGxSH",
   "xTHxZHwFxENG DIGRAPHwGx WITH HOOKxAMMAxREEK GAMMAzdPHIwHx WITH HOOKzeSTROKExENGzb WITH HOOK",
   "wI WITH STROKExOTAwJx WITH CROSSED-TAILwKwLx WITH BELTzeINVERTED LAZY SzeMIDDLE TILDE",
   "zePALATAL HOOKzeRETROFLEX HOOKzs AND BELTxEZHzb WITH RETROFLEX HOOKxIGATURE OExS DIGRAPH",
   "xZ DIGRAPHwMx WITH HOOKwN WITH LEFT HOOKzeRETROFLEX HOOKwOx WITH STROKExPEN EzcOwPxHIwQwR",
   "x WITH FISHHOOKzeTAILxAMS HORNxEVERSED EzgGLOTTAL STOPzgOPEN EwSx WITH CURLzeHOOKxCHWAyRIPT G",
   "xIDEWAYS UwTx WITH PALATAL HOOKzeRETROFLEX HOOKxC DIGRAPH WITH CURLxESH DIGRAPHxHETAxOP HALF O",
   "xS DIGRAPHzh WITH RETROFLEX HOOKxURNED AzfEzfLPHAzeHzeIzeMzf WITH LONG LEGzeOPEN EzeR",
   "zf WITH HOOKzlLONG LEGzt AND RETROFLEX HOOKzeVzeWzeYzf WITH BELTwUx BARyWITH LEFT HOOKxPSILON",
   "wVx WITH HOOKzeRIGHT HOOKwWwXwYwZx WITH CURLzeRETROFLEX HOOKrTRESS AND HIGH TONEzcLOW TONE",
   "rUPERSCRIPT HALF TRIANGULAR COLONzdTRIANGULAR COLONqTRIANGULAR COLONrURNED COMMAqUNASPIRATED",
   "rP ARROWHEADtTACKrSqVERTICAL LINErOICINGqYANG DEPARTING TONE MARKrIN DEPARTING TONE MARK",
   "dULO TWO SUMcNEY BAGgWITH WINGSf-MOUTH FACEdGOLIAN BIRGAp WITH DOUBLE ORNAMENTvORNAMENTkCOLON",
   "mMMAkDIGIT EIGHTqFIVErOURqNINEqONEqSEVENrIXqTHREErWOqZEROlOUBLE BIRGA WITH ORNAMENTkELLIPSIS",
   "kFOUR DOTSlREE VARIATION SELECTOR FOURzjONEzjTHREEzkWOlULL STOPkINVERTED BIRGA",
   "y WITH DOUBLE ORNAMENTkLETTER AsLI GALI AzcHzcNUSVARA ONEzbBALUDAzbCAzbDAzdGALGAzdMARUzcDA",
   "zbHALF UzgYAzbIzcNVERTED UBADAMAzbKAzbNGAzcNAzbPAzcHAzbSSAzbTAzcHREE BALUDAzcTAzdHAzbUBADAMA",
   "zbVISARGA ONEzbZAzcHAsNGrBArCHAu WITH TWO DOTStIrDArEsErFArGArHAArIrJArKAsHArLAsHArMA",
   "tNCHU ALI GALI BHAziCAzjYAziDDHAzjHAziGHAziJHAziLHAziNGAziSSAziTAzjTAziZAzjHAyFAyIyKAyRAyZHA",
   "rNArOsErPArQArRArSAsHAsIBE ANGwCHAwDAwEwFAwGAyAwHAyAwIxYwJAwKAwPAwRAAwSHAwTAxSAwUxEwZAxHArTA",
   "sODO ALI GALI TAzgZHAxNGwBAwCHAwDAxZAwEwGAyAwHAAwIwJAxIAwKAwLONG VOWEL SIGNwMAwNIAwOxEwPAwQA",
   "wTAxSAwUxEwWAwYAsSArUsErWArYArZAsHIsRAkMANCHU COMMArFULL STOPkNIRUGUkROTATED BIRGA",
   "x WITH DOUBLE ORNAMENTzeORNAMENTkSIBE SYLLABLE BOUNDARY MARKERlWIRL BIRGA",
   "v WITH DOUBLE ORNAMENTzcORNAMENTkTODO SOFT HYPHENlRIPLE BIRGA WITH ORNAMENT",
   "lURNED SWIRL BIRGA WITH DOUBLE ORNAMENTkVOWEL SEPARATORdKEYg FACEdOGRAM FOR EARTHnYANGoINeRAIL",
   "eSTABLE SYMBOLcOD BUBBLEdN CAKEfVIEWING CEREMONYcSQUEfITOcTHER CHRISTMASdOR BOATgSCOOTER",
   "fIZED WHEELCHAIRfWAYcUNT FUJIfAINi BICYCLISTjCABLEWAYjRAILWAYdSEf FACEgTRAPdTHcVIE CAMERAcYAI",
   "bRO DANDAfIGIT EIGHTkFIVElOURkNINEkONEkSEVENlIXkTHREElWOkZEROfOUBLE DANDAeLETTER AlBAlCHUlDAnI",
   "lEmAlHAInOlKEAAEmHAImOlLAnNlMAEMmIMlNGImINlOmLmOlPAmHIlRImOlSHIlTAmEKmHEAlWAlYO",
   "bUCH GREATER-THANfLESS-THANcLTANI LETTER ApBAqHApCAqHApDAqDArDArHAqHApEpGAqHApHApIpJAqJApKAqHA",
   "pLApMApNAqNAqYApPAqHApRAqHAqRApSApTAqHAqTArHApUpVApYAiSECTION MARKeIMAPfPLE MUSICAL NOTES",
   "hICATION SIGNt IN DOUBLE CIRCLExLEFT HALF CIRCLExRIGHT HALF CIRCLExTRIANGLEuWITH DOT ABOVE",
   "zUNDERBARpXfSETi MULTIPLICATIONjUNIONcSHROOMdIC FLAT SIGNgNATURAL SIGNgSHARP SIGNfAL KEYBOARD",
   "q WITH JACKSiNOTEiSCOREjYMBOL ARPEGGIATO DOWNzbUPpBEGIN BEAMvPHRASEvSLURvTIEqRACEtKET",
   "rEATH MARKsVEtISv RESTpC CLEFqAESURAqIRCLE X NOTEHEADqLIMACUSsVISrUSTER NOTEHEAD BLACKzhWHITE",
   "qODArMBINING ACCENTzg-STACCATOzbUGMENTATION DOTzBENDzDOITzcUBLE TONGUEzcWN BOWzFLAG-1zf2zf3zf4",
   "zf5zcIPzHARMONICzLOUREzMARCATOzh-STACCATOzRIPzSMEARzbNAP PIZZICATOzbPRECHGESANG STEM",
   "zbTACCATISSIMOzhOzcEMzTENUTOzbREMOLO-1zi2zi3zcIPLE TONGUEzUP BOWsMON TIMEqRESCENDOrOIXqUT TIME",
   "pDA CAPOrL SEGNOrMPt ALLrSHED BARLINEqECRESCENDOrGREE SLASHqOUBLE BARLINEwFLATwSHARP",
   "qRUM CLEF-1z2pEIGHTH NOTEwRESTqND BEAMtOF STIMMEtPHRASEtSLURtTIEpF CLEFv OTTAVA ALTAzeBASSA",
   "qERMATAw BELOWqINAL BARLINEsGERED TREMOLO-1zh2zh3rVE-LINE STAFFqLAT DOWNuUPqORTErUR-LINE STAFF",
   "uSTRING FRETBOARDqUSA BLACKuWHITEpG CLEFv OTTAVA ALTAzeBASSAqLISSANDO DOWNzUP",
   "qRACE NOTE NO SLASHzbSLASHrEGORIAN C CLEFzF CLEFpHALF NOTEuPEDAL MARKuRESTrUPTSTIMME",
   "pINVERTED TURNpKIEVAN C CLEFwEIGHTH NOTE STEM DOWNzoUPxND OF PIECEwFINAL NOTExLAT SIGN",
   "wHALF NOTEwQUARTER NOTE STEM DOWNzpUPwRECITATIVE MARKwWHOLE NOTEqORONpLEFT REPEAT SIGNqONGA",
   "u IMPERFECTA RESTvPERFECTA RESTpMAXIMAqEZZOqINIMAv BLACKwRESTqOON NOTEHEAD BLACKzeWHITE",
   "qULTI RESTuPLE MEASURE RESTpNATURAL DOWNxUPqEBENSTIMMEqOTEHEAD BLACKqULL NOTEHEAD",
   "pONE HUNDRED TWENTY-EIGHTH NOTEzqRESTs-LINE STAFFqRNAMENT STROKE-1zh0zh1zg2zg3zg4zg5zg6zg7zg8",
   "zg9qTTAVA ALTAwBASSApPARENTHESIS NOTEHEADqEDAL MARKvUP MARKrS SUBPUNCTISqIANOqLUS NOTEHEAD",
   "qODATUSrRRECTUSy FLEXUSpQUARTER NOTExRESTxTONE FLATzdSHARPrINDICESIMA ALTAzdBASSApREPEAT DOTS",
   "vED FIGURE-1zg2zg3rVERSE FINAL BARLINEqIGHT REPEAT SIGNrNFORZANDOpSCANDICUSy FLEXUSqEGNO",
   "rMIBREVIS BLACKzbRESTzbWHITEtMINIMA BLACKzbRESTzbWHITEqHARP DOWNvUPrORT BARLINEqINGLE BARLINE",
   "rX-LINE STAFFtSTRING FRETBOARDsTEENTH NOTEzRESTtY-FOURTH NOTEzdRESTqORIqQUARE BwNOTEHEAD BLACK",
   "zgWHITEqUBITOpTEMPUS IMPERFECTUM CUM PROLATIONE IMPERFECTAzzj DIMINUTION-1zzv2zzv3zyPERFECTA",
   "wPERFECTUM CUM PROLATIONE IMPERFECTAzwPERFECTAzzf DIMINUTION-1qHIRTY-SECOND NOTEzeREST",
   "rREE-LINE STAFFqORCULUSx RESUPINUSqRrIANGLE NOTEHEAD DOWN BLACKznWHITEziLEFT BLACKznWHITE",
   "ziRIGHT BLACKzoWHITEziUP BLACKzlRIGHT BLACKzrWHITEzlWHITEx-ROUND NOTEHEAD DOWN BLACKztWHITE",
   "qURNt SLASHuUPqWO-LINE STAFFpVIRGAqOID NOTEHEADpWHOLE NOTEvRESTqITH FINGERNAILSpX NOTEHEADpZ",
   "bVSbWbYANMAR CONSONANT SIGN MEDIAL HAzfRAzfWAzfYAyON MEDIAL LAzjMAzjNAxSHAN MEDIAL WA",
   "iDIGIT EIGHToFIVEpOURoNINEoONEoSEVENpIXoTHREEpWOoZEROiLETTER AqITON RAqUpBAqHApCAqHApDAqDArHA",
   "qHApEqASTERN PWO KAREN GHWAziNNAziYWApGAqHAqREAT SApHApIqIpJAqHApKAqHAsMTI CAxHAwDDAyHAxHAwFA",
   "wGAwHAxHAwJAxHAwLLAwNAxYAwRAwSAwTTAyHAwXAwZApLAqLApMAqON BBAvEtEtJHAtNGApNAqGAqNArYAqYApOpPA",
   "qHApRAqUMAI PALAUNG FApSAqGAW KAREN SHAqHAsN AuBAvHAuCAvHAuDAuFAuGAvHAuHAuJHAuKAvHAuNAvNAvYA",
   "uPHAuTHAuZArWE PALAUNG CHAzdSHAqSApTArI LAING BAzbHAzDAzbDAzcHAzbHAzFAzGAzbHAzJAzbHAzLLAzNNA",
   "zbYAqHAqTArHApUqUpVOCALIC LyLxRyRpWAqESTERN PWO KAREN PWAziTHApYAjOGOGRAM KHAMTI HMyOAYyQN",
   "iMODIFIER LETTER KHAMTI REDUPLICATIONySHAN REDUPLICATIONiSHAN DIGIT EIGHTtFIVEuOURtNINEtONE",
   "tSEVENuIXtTHREEuWOtZEROjIGN ANUSVARAoSATnDOT BELOWnKHAMTI TONE-1z3nLITTLE SECTION",
   "nPAO KAREN TONEnRUMAI PALAUNG TONE-5nSECTIONoHAN COUNCIL EMPHATIC TONEzbTONE-2zg3sSAWsTONE-2x3",
   "x5x6nTAI LAING TONE-2zd5nVIRAMApSARGAnWESTERN PWO KAREN TONE-1zl2zl3zl4zl5",
   "jYMBOL AFOREMENTIONEDqITON EXCLAMATIONvONEvTWOpCOMPLETEDpGENITIVEpLOCATIVEpSHAN EXCLAMATION",
   "uONEiTAI LAING DIGIT EIGHTyFIVEzOURyNINEyONEySEVENzIXyTHREEzWOyZEROjONE MARK SGAW KAREN HATHI",
   "zeKE PHOiVOWEL SIGN AAuIvTON AzbItEu ABOVEtGEBA KAREN ItIuItKAYAH EEzOEzUtMON IIxO",
   "tSGAW KAREN EUuHAN AAyEz ABOVEyFINAL YtTALL AAtUuUtVOCALIC LzdLzcRzdRtWESTERN PWO KAREN EUzmUE",
   "aN-ARY CIRCLED DOT OPERATORoPLUS OPERATORoTIMES OPERATORhOPRODUCTgINTERSECTIONgLOGICAL ANDoOR",
   "gPRODUCTgSQUARE INTERSECTION OPERATORnUNION OPERATORhUMMATIONgTIMES OPERATORgUNION",
   "l OPERATOR WITH DOTzbPLUSgWHITE VERTICAL BARbABATAEAN CRUCIFORM NUMBER FOURkLETTER ALEPHsYIN",
   "rBETHrDALETHrFINAL ALEPHxBETHxHExKAPHxLAMEDHxMEMxNUNxSHINxYODHrGIMELrHEtTHrKAPHrLAMEDHrMEMrNUN",
   "rPErQOPHrRESHrSADHEtMEKHsHINrTAWsETHrWAWrYODHrZAYINkNUMBER FIVEsOURrONEu HUNDREDrTENsHREE",
   "sWENTYtOdLAcIL POLISHdRA SIGNcKcME BADGEcNDeINAGARI HEADSTROKEmLETTER AuAuIuUtBAuHAtCAuHAtDA",
   "uDAvHAuHAtEtGAuHAtHAtIuItJAuHAtKAuHAtLAuLAtMAtNAuGAuNAuYAtOtPAuHAtRAuRAtSAuHAuSAtTAuHAuTAvHAtU",
   "uUtVAuOCALIC RzdRtYAmSIGN ANUSVARAsVAGRAHArSIDDHAMrVIRAMAtSARGAmVOWEL SIGN AAyIyUxExIyIxO",
   "xPRISHTHAMATRA ExUyUxVOCALIC RzhRcRROW NO-BREAK SPACEcTIONAL DIGIT SHAPESjPARKcUSEATED FACE",
   "cZAR AMULETbBHcSPbECKTIEcGATED DOUBLE VERTICAL BAR DOUBLE RIGHT TURNSTILEfIVE ACKNOWLEDGE",
   "jCIRCLED DIGIT ZEROrLATIN CAPITAL LETTER AznBznCznDznEznFznGznHznIznJznKznLznMznNznOznPznQznR",
   "znSznTznUznVznWznXznYznZrNUMBER EIGHTEENzLEVENyFIFTEENzOURTEENyNINETEENySEVENTEENzIXTEEN",
   "yTHIRTEENzWELVEzcNTYrSQUARErTRIANGLEjDIAGONAL CROSSsDIAMONDsMIDDLE RIGHT TO LOWER CENTRE",
   "jSQUARED ABrCROSS MARKrICrLATIN CAPITAL LETTER AznBznCznDznEznFznGznHznIznJznKznLznMznNznOznP",
   "znQznRznSznTznUznVznWznXznYznZrPArQUESTION MARKrSArWCcITHER A SUBSET OF NOR EQUAL TO",
   "mPERSET OF NOR EQUAL TOjPPROXIMATELY NOR ACTUALLY EQUAL TOiGREATER-THAN NOR EQUAL TO",
   "zdIVALENT TOzLESS-THANiLESS-THAN NOR EQUAL TOzIVALENT TOwGREATER-THANcLcPTUNEh FORM TWO",
   "cRD FACEcSSUSdT WITH EGGSeING DOLLScUTEReRAL CHESS BISHOPu ROTATED NINETY DEGREES",
   "zeTWO HUNDRED SEVENTY DEGREESoEQUIHOPPERy ROTATED NINETY DEGREESoKINGs ROTATED NINETY DEGREES",
   "zcTWO HUNDRED SEVENTY DEGREESpNIGHTu ROTATED FORTY-FIVE DEGREESzeNINETY DEGREES",
   "zeONE HUNDRED THIRTY-FIVE DEGREESzeTHREE HUNDRED FIFTEEN DEGREESzfWO HUNDRED SEVENTY DEGREES",
   "zqTWENTY-FIVE DEGREESoPAWNs ROTATED NINETY DEGREESzcTWO HUNDRED SEVENTY DEGREESoQUEEN",
   "t ROTATED NINETY DEGREESzdTWO HUNDRED SEVENTY DEGREESoROOKs ROTATED NINETY DEGREES",
   "zcTWO HUNDRED SEVENTY DEGREESoTURNED BISHOPvKINGwNIGHTvPAWNvQUEENvROOKiFACEcW LINEeMOON SYMBOL",
   "jWITH FACEeSHEQEL SIGNeTAI LUE DIGIT EIGHTsFIVEtOURsNINEsONEsSEVENtIXsTHREEtWOsZERO",
   "mLETTER FINAL BzDzKzMzNzbGzVtHIGH BAyDAyFAyHAyKAzVAyLAyMAyNAzGAyPAzHAyQAySAzUAyTAzHAzSAyVAyXA",
   "zVAyYAtLOW BAxDAxFAxHAxKAyVAxLAxMAxNAyGAxPAyHAxQAxSAyUAxTAyHAySAxVAxXAyVAxYAmSIGN LAEuV",
   "mTHAM DIGIT ONEnONE MARK-1w2mVOWEL SIGN AAzYyEyYxExIIyYxOyAzYyYxUyEzYyUyYxVOWEL SHORTENER",
   "dA ABBREVIATION SIGNfCOMMAfDANDAgIGIT EIGHTlFIVEmOURlNINElONElSEVENmIXlTHREEmWOlZERO",
   "gOUBLE COMMAmDANDAfGAP FILLERfINSERTION SIGNfLETTER AnAnInUmBAnHAmCAnHAmDAnDAoHAnHAmEmGAnHAmHA",
   "mInImJAnHAmKAnHAmLAnHAmMAnHAmNAnGAoHAnHAnNAnYAoHAmOmPAnHAmRAnHAmSAnHAnSAmTAnHAnTAoHAmUnU",
   "mVEDIC ANUSVARAnOCALIC LvLuRvRmWAmYAfOMfPLACEHOLDER MARKfSANDHI MARKgIDDHIhGN ANUSVARAlVAGRAHA",
   "kCANDRABINDUkFINAL ANUSVARAkJIHVAMULIYAkNUKTAkUPADHMANIYAkVIRAMAmSARGAfVOWEL SIGN AArIrUqEqIrI",
   "qOqUrUqVOCALIC LzLyRzRdLINE LEFTiRIGHTdSPAPERcXT LINEfPAGEbIGHT WITH STARScNJA",
   "bKO COMBINING DOUBLE DOT ABOVEoLONG DESCENDING TONEtHIGH TONEtLOW TONEtRISING TONE",
   "oNASALIZATION MARKoSHORT HIGH TONEuLOW TONEuRISING TONEhMAeDANTAYALANfIGIT EIGHTkFIVElOURkNINE",
   "kONEkSEVENlIXkTHREElWOkZEROfOROME SIGNeEXCLAMATION MARKeHIGH TONE APOSTROPHEeLAJANYALAN",
   "fETTER AlBAlCHAlDAnGBASINNAlEmElFAlGBAlHAlIlJAmONA CHAqJAqRAlKAlLAlMAlNmAn WOLOSOmYAo WOLOSOlO",
   "mOlPAlRAmRAlSAlTAlUlWAlYAfOW TONE APOSTROPHEeSYMBOL GBAKURUNENlOO DENNENeTAMAN SIGNbLbNBSP",
   "bO BICYCLESeREAK HEREdENTRYi SIGNdMOBILE PHONESdONE UNDER EIGHTEEN SYMBOLdPEDESTRIANSeIRACY",
   "dSMOKING SYMBOLc-BREAK SPACEcMINAL DIGIT SHAPESeSMA SIGNcN-BREAKING HYPHEN",
   "ePOTABLE WATER SYMBOLdFORKINGcRdDIC MARK SIGNdMAL SUBGROUP OFs OR EQUAL TO",
   "dTH EAST AND SOUTH WEST ARROWmRROWq AND SOUTH EAST ARROWrCROSSING NORTH WEST ARROW",
   "zbSOUTH EAST ARROWrWITH HOOKlBLACK ARROWlDOUBLE ARROWlPOINTING BUDuLEAFuVINE LEAF",
   "lSANS-SERIF ARROWlTRIANGLE-HEADED ARROWzh TO BARlWHITE ARROWgINDIC FRACTION ONE EIGHTHzHALF",
   "zQUARTERzSIXTEENTHvTHREE QUARTERSzcSIXTEENTHSmPLACEHOLDER MARKmQUANTITY MARKpRTER MARK",
   "mRUPEE MARKgWEST AND SOUTH EAST ARROWmRROWq AND NORTH EAST ARROWrCROSSING NORTH EAST ARROW",
   "rTO CORNERuLONG BARrWITH HOOKlBLACK ARROWlDOUBLE ARROWlPOINTING BUDuLEAFuVINE LEAF",
   "lSANS-SERIF ARROWlTRIANGLE-HEADED ARROWzh TO BARlWHITE ARROWfEAST-POINTING AIRPLANEcSE",
   "cT A SUBSET OFiPERSET OFfLMOST EQUAL TOfN ELEMENT OFfSYMPTOTICALLY EQUAL TOeCHECK MARK",
   "eEQUAL TOhIVALENT TOeGREATER-THANeIDENTICAL TOeLESS-THANeNORMAL SUBGROUP OFw OR EQUAL TO",
   "ePARALLEL TOeSIGNfQUARE IMAGE OF OR EQUAL TOlORIGINAL OF OR EQUAL TOeTILDEfRUE",
   "dCHED LEFT SEMICIRCLE WITH THREE DOTSjOWER RIGHT-SHADOWED WHITE RIGHTWARDS ARROW",
   "iRIGHT SEMICIRCLE WITH THREE DOTSiUPPER RIGHT-SHADOWED WHITE RIGHTWARDS ARROWdEe PADhGEeBOOK",
   "i WITH DECORATIVE COVERbULdLcMBER EIGHTEEN FULL STOPiLEVEN FULL STOPhFIFTEEN FULL STOP",
   "iOURTEEN FULL STOPhNINETEEN FULL STOPhSEVENTEEN FULL STOPiIGNjXTEEN FULL STOPhTEN FULL STOP",
   "iHIRTEEN FULL STOPiWELVE FULL STOPkNTY FULL STOPdERO SIGNcSHU CHARACTER-1B170u1u2u3u4u5u6u7u8",
   "u9uAuBuCuDuEuFt80u1u2u3u4u5u6u7u8u9uAuBuCuDuEuFt90u1u2u3u4u5u6u7u8u9uAuBuCuDuEuFtA0u1u2u3u4u5",
   "u6u7u8u9uAuBuCuDuEuFtB0u1u2u3u4u5u6u7u8u9uAuBuCuDuEuFtC0u1u2u3u4u5u6u7u8u9uAuBuCuDuEuFtD0u1u2",
   "u3u4u5u6u7u8u9uAuBuCuDuEuFtE0u1u2u3u4u5u6u7u8u9uAuBuCuDuEuFtF0u1u2u3u4u5u6u7u8u9uAuBuCuDuEuF",
   "s200u1u2u3u4u5u6u7u8u9uAuBuCuDuEuFt10u1u2u3u4u5u6u7u8u9uAuBuCuDuEuFt20u1u2u3u4u5u6u7u8u9uAuBuC",
   "uDuEuFt30u1u2u3u4u5u6u7u8u9uAuBuCuDuEuFt40u1u2u3u4u5u6u7u8u9uAuBuCuDuEuFt50u1u2u3u4u5u6u7u8u9",
   "uAuBuCuDuEuFt60u1u2u3u4u5u6u7u8u9uAuBuCuDuEuFt70u1u2u3u4u5u6u7u8u9uAuBuCuDuEuFt80u1u2u3u4u5u6",
   "u7u8u9uAuBuCuDuEuFt90u1u2u3u4u5u6u7u8u9uAuBuCuDuEuFtA0u1u2u3u4u5u6u7u8u9uAuBuCuDuEuFtB0u1u2u3",
   "u4u5u6u7u8u9uAuBuCuDuEuFtC0u1u2u3u4u5u6u7u8u9uAuBuCuDuEuFtD0u1u2u3u4u5u6u7u8u9uAuBuCuDuEuFtE0",
   "u1u2u3u4u5u6u7u8u9uAuBuCuDuEuFtF0u1u2u3u4u5u6u7u8u9uAuBgITERATION MARKcT AND BOLT",
   "bYIAKENG PUACHUE HMONG CIRCLED CAxDIGIT EIGHTzeFIVEzfOURzeNINEzeONEzeSEVENzfIXzeTHREEzfWO",
   "zeZEROxLETTER AzgAzfCAzfDAzgLAzfEzgEzfFAzfGAzfHAzhHzfIzfKAzfLAzfMAzgLAzfNAzgCAzgKAzgPAzhLAzgQA",
   "zgRAzgTAzhSAzhXAzgYAzfOzgOzfPAzgLAzfQAzfRAzgRAzfSAzfTAzgSAzgXAzfUzfVAzfWzfXAzgYAzfYAzfZA",
   "yOGOGRAM NYAJxSIGN FOR ANIMALzhINVERTEBRATEzhLOCATIONzhPERSONzhTHINGzdXW XWyYLLABLE LENGTHENER",
   "xTONE-BzdDzdGzdJzdMzdSzdVaOBJECT REPLACEMENT CHARACTERcLIQUE ANGLE OPENING DOWNwUPiHYPHEN",
   "cSERVER EYE SYMBOLbCR AMOUNT OF CHECKeBELT BUCKLEfOW TIEfRANCH BANK IDENTIFICATIONeCHAIR",
   "fUSTOMER ACCOUNT NUMBEReDASHfOUBLE BACKSLASHeFORKeHOOKeINVERTED FORKcTAGONAL SIGNdOPUSbDEN",
   "bFFICE BUILDINGbGHAM FEATHER MARKgLETTER AILMnBEITHnCEIRToOLLnDAIRnEABHADHpDHADHpMHANCHOLL",
   "nFEARNnGORTnIFINoODHADHnLUISnMUINnNGEADALoIONnONNoRnPEITHnRUISnSAILoTRAIFnTINNEnUATHoILLEANNoR",
   "gREVERSED FEATHER MARKgSPACE MARKcONEKbHM SIGNbIL DRUMbK HAND SIGNbL CHIKI AHADjDIGIT EIGHT",
   "pFIVEqOURpNINEpONEpSEVENqIXpTHREEqWOpZEROjGAAHLAA TTUDDAAGjLETTER AAJsKsMsWrGrLrNGrTqEDDrNrP",
   "rRRqIHrNYrRrSqLAsArErIrOrUqOBrHrTTrVqUCrDrNNrYjMU TTUDDAGl-GAAHLAA TTUDDAAGjPHAARKAA",
   "kUNCTUATION DOUBLE MUCAADvMUCAADjRELAAcD CHINESE HOOK MARKmITERATION MARK",
   "eHUNGARIAN CAPITAL LETTER AzfAzfKzfMBzfNDzeCLOSE EzeEzfBzfCzgHzgSzfDzfEzfFzfGzgYzfHzfJzfKzfL",
   "zgYzfMzgPzfNzgCzgTzh-SHAPED SIGNzgYzfPzfRzfSzgZzfTzgYzfVzfZzgSzeIzfIzeNIKOLSBURG OEzpUEzeOzfEE",
   "zfOzeRUDIMENTA OEzoUEzeSHORT ERzeUzfNKzfSzfUoNUMBER FIFTYxVEvONEy HUNDREDzTHOUSANDvTEN",
   "oSMALL LETTER AzdAzdKzdMBzdNDzcCLOSE EzcEzdBzdCzeHzeSzdDzdEzdFzdGzeYzdHzdJzdKzdLzeYzdMzePzdN",
   "zeCzeTzf-SHAPED SIGNzeYzdPzdRzdSzeZzdTzeYzdVzdZzeSzcIzdIzcNIKOLSBURG OEznUEzcOzdEEzdO",
   "zcRUDIMENTA OEzmUEzcSHORT ERzcUzdNKzdSzdUeITALIC LETTER AsBEsCHEsDEsEtFtKStLtMtNtRuStSuHuSsHE",
   "sItIsKAtEtHEtUsNORTHERN TSEsOsPEtHEsSHEtOUTHERN TSEsTEtHEsUtUsVEsYEsZElNUMERAL FIFTYvVEtONE",
   "tTENeKEYeNORTH ARABIAN LETTER AINzbLEFzBEHzDADzcLzES-1zd2zd3zFEHzGEEMzbHAINzHAHzbEHzKAFzbHAH",
   "zLAMzMEEMzNOONzQAFzREHzSADzTAHzbEHzbHALzcEHzWAWzYEHzZAHzcINsNUMBER ONEzTENzbWENTY",
   "ePERMIC LETTER ANsBURsCHERYsDOItZHOIuITAsEtFsGAIsHAsItAtEsKOKEsLEIsMENOEsNENOEsOtOsPEEIsREI",
   "sSHCHOOIuOOItIIsTAItSIUsUsVERtOOIsYAuTtERvIvUtRYtUsZATAtHOIhSIAN NUMBER HUNDREDtONEtTENuWENTY",
   "vOmSIGN AsURAMAZDAAzc-2zcHArBAtGAsUUMISHrCArDAtHYAAUSHzb-2sIsUrFArGAsUrHArIrJAsIrKAsUrLArMAsI",
   "sUrNAsUrPArRAsUrSAsHAsSArTAsHAsUrUrVAsIrXAsSHAAYATHIYArYArZAmWORD DIVIDERiONAL COMPUTER",
   "eSOGDIAN FRACTION ONE HALFmLETTER ALEPHvTERNATE AYINuYINtBETHtFINAL ALEPHzBETHzHEzNUN",
   "zd WITH VERTICAL TAILzSADHEzf WITH VERTICAL TAILzTAWzd WITH VERTICAL TAILtGIMELtHEvTHtKAPH",
   "tLAMEDHtMEMtNUNtPEtRESH-AYIN-DALETHtSADHEvMEKHuHINtTAWtWAWtYODHtZAYINnIGATURE AYIN-DALETH",
   "mNUMBER FIVEuOURtONEw HUNDREDtTENuHIRTYvREEuWENTYvOgUTH ARABIAN LETTER ALEFzbYNzBETHzDALETH",
   "zbHADHEzdLETHzFEzGHAYNzbIMELzHEzcTHzKAPHzbHETHzLAMEDHzMEMzNUNzQOPHzRESHzSADHEzcMEKHzcTzbHIN",
   "zTAWzbETHzbHAWzcETHzWAWzYODHzZAYNsNUMBER FIFTYzONEvERIC INDICATOReTURKIC LETTER ORKHON AzbBzbD",
   "zbEBzcDzcGzcKzcLzcNzcRzcSzcTzcYzbGzbLzbNzbQzbRzbSzcHzbTzbYzBASHzECzbLTzbMzbNCzcGzcTzcYzbPzbSH",
   "zbZzIzbCzbQzOzbEzcKzbPzbQzbTsYENISEI AzcBzcDzcEzdBzdGzdKzdNzeGzdTzdYzcGzcLzcNGzcQzcRzcSHzcTzcY",
   "zbEzcCzcNCzdTzdYzcSHzcZzbIzcQzbOEzdKzcQeUYGHUR COMBINING DOT ABOVEzBELOWvTWO DOTS ABOVEzfBELOW",
   "lLETTER ALEPHsBETHsFINAL HETHsGIMEL-HETHsKAPHsLAMEDHtESHsMEMsNUNsPEsRESHsSADHEuMEKHtHINsTAW",
   "sWAWsYODHsZAYINlPUNCTUATION BARxFOUR DOTSxTWO BARSzcDOTSdER ADULTgMANgWOMANcIVEbM SYMBOL",
   "bN WITH EXCLAMATION MARK WITH LEFT RIGHT ARROW ABOVEcCOMING AUTOMOBILEjBUSjFIRE ENGINE",
   "jPOLICE CARjTAXIcE BUTTON MOUSEeDOT LEADERiOVER TWO DOTS PUNCTUATIONd-PIECE SWIMSUITcION",
   "bPEN BOOKhXfCENTRE ASTERISKmBLACK STARmCROSSmTEARDROP-SPOKED ASTERISKfFILE FOLDERgOLDER",
   "fHANDS SIGNfLOCKfMAILBOX WITH LOWERED FLAGsRAISED FLAGfSUBSEThPERSET",
   "e-CIRCUIT-OUTPUT H-TYPE SYMBOLuL-TYPE SYMBOLfOUTLINED RIGHTWARDS ARROWdRATING SYSTEM COMMAND",
   "cHIUCHUScPOSITIONcTICAL DISCm ICONeON KEYbR WITH DOT INSIDEcANGE BOOKhHEARTfUTANcIGINAL OF",
   "dYA AI LENGTH MARKhU LENGTH MARKgDIGIT EIGHTmFIVEnOURmNINEmONEmSEVENnIXmTHREEnWOmZERO",
   "gFRACTION ONE EIGHTHtHALFtQUARTERtSIXTEENTHpTHREE QUARTERSvSIXTEENTHSgISSHARgLETTER AoAoIoUnBA",
   "oHAnCAoHAnDAoDApHAoHAnEnGAoHAnHAnIoInJAoHAnKAoHAnLAoLAnMAnNAoGAoNAoYAnOnPAoHAnRAoHAoRAnSAoHA",
   "oSAnTAoHAoTApHAnUoUnVAoOCALIC LwLvRwRnWAnYAoYAgSIGN ANUSVARAmVAGRAHAlCANDRABINDUlNUKTA",
   "lOVERLINElVIRAMAnSARGAgVOWEL SIGN AAsIsUrErIsIrOrUsUrVOCALIC LzbLzRzbRcNATE LEFT PARENTHESIS",
   "hRIGHT PARENTHESIScTHODOX CROSSbSAGE CAPITAL LETTER AwHwIxNvBRAvCHAvDHAvEwHCHAxKAxPAxTAySAwIN",
   "vGHAvHAwYAvIvKAwHAwYAvLAvMAvNAvOwINvPAvSAwHAvTAwSAxHAvUvWAvZAwHAgSMALL LETTER AuHuIvNtBRAtCHA",
   "tDHAtEuHCHAvKAvPAvTAwSAuINtGHAtHAuYAtItKAuHAuYAtLAtMAtNAtOuINtPAtSAuHAtTAuSAvHAtUtWAtZAuHAcC",
   "cMANYA DIGIT EIGHToFIVEpOURoNINEoONEoSEVENpIXoTHREEpWOoZEROiLETTER AqAqLEFpBApCAYNpDEELqHApEqE",
   "pFApGApHApIpJApKAAFqHApLAANpMIINpNUUNpOqOpQAAFpRApSAqHIINpTApUpWAWpXApYAbTTER",
   "dOMAN SIYAQ ALTERNATE NUMBER EIGHTzgFIVEzhOURzk HUNDREDzgNINEzgSEVENzhIXzj HUNDREDzgTEN",
   "zj THOUSANDzhHREEzhWOzj THOUSANDoFRACTION ONE HALFzcSIXTHoMARRATANoNUMBER EIGHTzb HUNDRED",
   "zcTHOUSANDzbYzc THOUSANDvFIFTYzb THOUSANDxVEz HUNDREDzbTHOUSANDwORTYzb THOUSANDxURz HUNDRED",
   "zbTHOUSANDvNINEz HUNDREDzbTHOUSANDzTYzc THOUSANDvONEy HUNDREDzTHOUSANDvSEVENzb HUNDRED",
   "zcTHOUSANDzbTYzd THOUSANDwIXy HUNDREDzTHOUSANDyTYzb THOUSANDvTENy THOUSANDwHIRTYzc THOUSAND",
   "xREEzb HUNDREDzcTHOUSANDwWENTYzc THOUSANDxOy HUNDREDzTHOUSANDbUNCE SIGNcTBOX TRAY",
   "dLINED BLACK STARjGREEK CROSSjLATIN CROSSjWHITE STARbVERHEATED FACEeLAPhPING BLACK SQUARES",
   "mWHITE AND BLACK SQUARESsSQUARESfINEbWLbXbYSTERaPACKAGEcDdDING CHARACTERcGEe FACING UP",
   "fWITH CIRCLED TEXTlURLeReSdODAcHAWH HMONG CLAN SIGN FAJxHAMzWJxKHAByOOyWMxLAUJyISxMUASxPHAB",
   "xTHOJySABzHEEJzWBxVAJyWJxXYOOJxYAJyEEGoONSONANT AUxCAUyHAUxHAUyLAUyNAUxLAUxMAUxNAUyCHAUyKAU",
   "yLAUyTHAUzSAUxPLHAUxQHAUxRAUxVAUxXAUxYAUnDIGIT EIGHTtFIVEuOURtNINEtONEtSEVENuIXtTHREEuWOtZERO",
   "nMARK CIM HOMwKESxHAVwSOxUAMwTAUMxUBnNUMBER HUNDRED MILLIONSzcSuMILLIONSuTEN BILLIONS",
   "yTHOUSANDSxSvRILLIONSnSIGN AVsCIM CHEEMxUAM TSHOOJwHAIS LUS NTOG NTOGwNRES TOSwPUB DAWB",
   "wTSOV ROGxXWVzb CHWVsHLItNUBsIB YAMsLOSsMEEJ SUABxTSEEBtUSsNQIGtTUJsTAUtHIRD-STAGE HLI",
   "tXHEEJ CEEVsVOS FEEMwLUBwNRUAwSEEVwTHIAByOMxSHAB CEEBsXAUStIABtYEEM FAIByNTXIVyRHOyTOVuOO",
   "sZWJ THAJnVOWEL KAABwVvBvIBwVvUBwVvVvWBwVuEBvEBwVvVuIABwVvBvVuOBvOBwVvVuUABwVvBvVuWBvVcLLAS",
   "dM BRANCHfDOWN HANDfTREEfUP HANDeS UP TOGETHEReYRENE LEFT-POINTING FLEURONmTTER ALEPHsYINrBETH",
   "rDALETHrFINAL NUNrGIMELrHEtTHrKAPHrLAMEDHrMEMrNUNrPErQOPHrRESHrSADHEtMEKHsHINrTAWsETHrWAWrYODH",
   "rZAYINkNUMBER FIVEsOURrONErTENsHREEsWENTYtOkRIGHT-POINTING FLEURONcNCAKESdDA FACEcPERCLIP",
   "cRACHUTEeGRAPH SEPARATORjOSjUS MARKeLLEL TOjWITH HORIZONTAL STROKEoTILDE OPERATOR",
   "dENTHESIZED DIGIT EIGHTuFIVEvOURuNINEuONEuSEVENvIXuTHREEvWOoHANGUL CHIEUCHzd AwIEUCzb AzcU",
   "vHIEUHzb AvIEUNGzb AvKHIEUKHzd AwIYEOKzc AvMIEUMzb AvNIEUNzb AvPHIEUPHzd AwIEUPzb AvRIEULzb A",
   "vSIOSz AvTHIEUTHzd AwIKEUTzc AoIDEOGRAPH ALLIANCEyCALLzONGRATULATIONyEARTHzIGHTzNTERPRISE",
   "yFESTIVALzINANCIALzbREzbVEzOURyHAVEyLABORyMETALzOONyNAMEzINEyONEyREACHzbPRESENTzbSOURCEzcT",
   "ySELFzbVENzIXzOCIETYzPECIALzTOCKzbUDYzUNzbPERVISEyTENzHREEzWOyWATERzOODoKOREAN CHARACTER O HU",
   "zhJEONoLATIN CAPITAL LETTER AzkBzkCzkDzkEzkFzkGzkHzkIzkJzkKzkLzkMzkNzkOzkPzkQzkRzkSzkTzkUzkV",
   "zkWzkXzkYzkZuSMALL LETTER AziBziCziDziEziFziGziHziIziJziKziLziMziNziOziPziQziRziSziTziUziVziW",
   "ziXziYziZoNUMBER EIGHTEENwLEVENvFIFTEENwOURTEENvNINETEENvSEVENTEENwIXTEENvTENwHIRTEENwWELVE",
   "yNTYdROTdT ALTERNATION MARKeIAL DIFFERENTIALiLINE BACKWARDnDOWNnFORWARDnUP",
   "hLY-RECYCLED PAPER SYMBOLeNERSHIP SIGNeY POPPERcSSED SYMBOLfNGER SHIP",
   "eIVE-PULL-DOWN-OUTPUT SYMBOLnUP-OUTPUT SYMBOLePORT CONTROLcU CIN HAU GLOTTAL STOPy FINAL",
   "zVARIANTmLETTER AtBAtCAuHAtDAtEtFAuINAL KzLzMzNzbGzPzTzWzYtGAtHAtIuAtKAuHAtLAtMAtNAuGAtOtPAuHA",
   "tRAtSAtTAuHAtUuAtVAtZAnOW-FALLING TONEzd FINALzeLONGzi FINALmMID-LEVEL TONEzb FINAL",
   "zcLONG FINALmRISING TONEx FINALyLONGzd FINALmSANDHI GLOTTAL STOPzg FINALtTONEx FINALyLONG",
   "zd FINALcW PRINTSbDFcIbEACE SYMBOLeHeOCKdNUTSdRcDESTRIANcN OVER STAMPED ENVELOPEdCILdGUIN",
   "dSIVE FACEdTAGRAMcOPLE HUGGINGcR MILLE SIGNeSIGNeTEN THOUSAND SIGNdCENT SIGNdFORMING ARTS",
   "dMANENT PAPER SIGNdPENDICULARn WITH SdSEVERING FACEeON BOWING DEEPLYhCLIMBINGhDOING CARTWHEEL",
   "hFROWNINGhIN LOTUS POSITIONkSTEAMY ROOMhRAISING BOTH HANDS IN CELEBRATIONhWITH BALLnLOND HAIR",
   "mCROWNmFOLDED HANDSmHEADSCARFmPOUTING FACEgAL COMPUTERePECTIVEcSETA SIGNdO SIGNcTRI DISH",
   "bHAGS-PA DOUBLE HEAD MARKjLETTER ArLTERNATE YArSPIRATED FAqBAqCAsNDRABINDUrHAqDArDArZAqErEqFA",
   "qGArGAqHAqIqJAqKArHAqLAqMAqNArGArNArYAqOqPArHAqQAqRAqSArHArMALL AqTArHArSAsHArTAsHAqU",
   "qVOICED HAvLESS SHAqWAqXAqYAqZArHAjMARK DOUBLE SHADoSHADjSINGLE HEAD MARKkUBJOINED LETTER RA",
   "zbWAzbYAlPERFIXED LETTER RAdISTOS DISC SIGN ARROWtBEEwHIVEuOOMERANGvWuULLS LEGtCAPTIVE",
   "vRPENTRY PLANEvTuHILDuLUBuOLUMNvMBxINING OBLIQUE STROKEtDOLIUMvVEtEAGLEtFLUTEtGAUNTLETuRATER",
   "tHELMETuIDEuORNtLIDvLYtMANACLESvTTOCKtOX BACKtPAPYRUSuEDESTRIANuLANE TREEvUMED HEADtRAMuOSETTE",
   "tSAWuHIELDwPuLINGuMALL AXEuTRAINERtTATTOOED HEADuIARAuUNNYtVINEtWAVY BANDuOMAN",
   "cILIPPINE DOUBLE PUNCTUATIONlSINGLE PUNCTUATIONcOENICIAN LETTER AINtLFsBETsDELTsGAMLsHEuTsKAF",
   "sLAMDsMEMsNUNsPEsQOFsROSHsSADEtEMKtHINsTAUtETsWAUsYODsZAIlNUMBER ONEv HUNDREDsTENtHREEtWENTYuO",
   "lWORD SEPARATORdLUSbICKeUP TRUCKcEcGd FACEeNOSEcLCROW SIGNdE OF POOdLcNATAdCHED FINGERS",
   "fING HANDdE DECORATIONeAPPLEdWHEEL STARcSCESdTOLcTCHFORKj WITH TEE TOPbLACARD",
   "eE OF INTEREST SIGNjWORSHIPdNCK CONSTANTp OVER TWO PIdYGROUND SLIDEeING CARD ACE OF CLUBS",
   "uDIAMONDSuHEARTSuSPADESnBACKoLACK JOKERnEIGHT OF CLUBSwDIAMONDSwHEARTSwSPADESnFIVE OF CLUBS",
   "vDIAMONDSvHEARTSvSPADESoOOLpUR OF CLUBSvDIAMONDSvHEARTSvSPADESnJACK OF CLUBSvDIAMONDSvHEARTS",
   "vSPADESnKING OF CLUBSvDIAMONDSvHEARTSvSPADESoNIGHT OF CLUBSxDIAMONDSxHEARTSxSPADES",
   "nNINE OF CLUBSvDIAMONDSvHEARTSvSPADESnQUEEN OF CLUBSwDIAMONDSwHEARTSwSPADESnRED JOKER",
   "nSEVEN OF CLUBSwDIAMONDSwHEARTSwSPADESoIX OF CLUBSuDIAMONDSuHEARTSuSPADESnTEN OF CLUBS",
   "uDIAMONDSuHEARTSuSPADESoHREE OF CLUBSwDIAMONDSwHEARTSwSPADESoRUMP-1u0u1u2u3u4u5u6u7u8u9t2u0u1",
   "t3t4t5t6t7t8t9oWO OF CLUBSuDIAMONDSuHEARTSuSPADESnWHITE JOKERcDcUdNGERdS SIGN",
   "j ABOVE EQUALS SIGNkIN LEFT HALF CIRCLEnRIGHT HALF CIRCLEnTRIANGLEkWITH BLACK TRIANGLE",
   "pCIRCUMFLEX ACCENT ABOVEpDOT BELOWpSMALL CIRCLE ABOVEqUBSCRIPT TWOpTILDE ABOVEvBELOW",
   "e-MINUS SIGNdTOf FORM FIVEmOURlTHREEmWObMbOCKET CALCULATORcLICE CARkS REVOLVING LIGHThOFFICER",
   "cODLEcP DIRECTIONAL FORMATTINGqISOLATEdCORNcRTABLE STEREOcSEIDONdITION INDICATORdTAL HORNhMARK",
   "l FACEeBOXcT OF FOODdABLE WATER SYMBOLeTOdTED PLANTcUCHdLTRY LEGdND SIGNdRING LIQUID",
   "dTING CAT FACEiFACEcWER ON SYMBOLi-OFF SYMBOLgSLEEP SYMBOLhYMBOLbRAYER BEADScECEDES",
   "i ABOVE ALMOST EQUAL TOpEQUALS SIGNpNOT ALMOST EQUAL TOtEQUAL TOpSINGLE-LINE EQUALS SIGN",
   "zcNOT EQUAL TOjBUT NOT EQUIVALENT TOjOR EQUAL TOpIVALENT TOjUNDER RELATIONdGNANT MANjPERSON",
   "jWOMANdSCRIPTION TAKEeENTATION FORM FOR VERTICAL COLONziMMAzgEM DASHzhN DASHzhXCLAMATION MARK",
   "zgHORIZONTAL ELLIPSISzgIDEOGRAPHIC COMMAzsFULL STOPzgLEFT ANGLE BRACKET",
   "zlBLACK LENTICULAR BRACKETzlCORNER BRACKETzmURLY BRACKETzlDOUBLE ANGLE BRACKETzlPARENTHESIS",
   "zlSQUARE BRACKETzlTORTOISE SHELL BRACKETzlWHITE CORNER BRACKETzrLENTICULAR BRACKETzhOW LINE",
   "zgQUESTION MARKzgRIGHT ANGLE BRACKETzmBLACK LENTICULAR BRACKETzmCORNER BRACKETznURLY BRACKET",
   "zmDOUBLE ANGLE BRACKETzmPARENTHESISzmSQUARE BRACKETzmTORTOISE SHELL BRACKET",
   "zmWHITE CORNER BRACKETzsLENTICULAR BRACKETzzhKCETzgSEMICOLONzgTWO DOT LEADERzgWAVY LOW LINE",
   "dTZELdVIOUS PAGEcIMEdNCEgSSeT SCREEN SYMBOLfERh ICONdVACY MESSAGEfTE USE ONEmTWOl-1m2",
   "cOBING CANEdHIBITED SIGNdJECTIVEdPERTY LINEeORTIONkAL TOdSERPINA",
   "bSALTER PAHLAVI FOUR DOTS WITH CROSSzgDOTqLETTER ALEPHxBETHxDALETHxGIMELxHEzTHxKAPHxLAMEDH",
   "xMEM-QOPHxNUNxPExSADHEzMEKHyHINxTAWxWAW-AYIN-RESHxYODHxZAYINqNUMBER FOURxONEzb HUNDREDxTEN",
   "yHREEyWENTYzOqSECTION MARKqTURNED SECTION MARKbU1c2cBLIC ADDRESS LOUDSPEAKERcNCTUATION SPACE",
   "gS ELEVATUS MARKcRPLE HEARTdSEcSHPINcT LITTER IN ITS PLACE SYMBOLaQUADRANT LOWER LEFTpRIGHT",
   "jUPPER LEFTt AND LOWER LEFT AND LOWER RIGHTzfRIGHTyUPPER RIGHT AND LOWER LEFTzvRIGHTpRIGHT",
   "u AND LOWER LEFTzk AND LOWER RIGHTfUPLE INTEGRAL OPERATORkPRIMEdRTER NOTE",
   "dTERNION INTEGRAL OPERATORcESTION EXCLAMATION MARKjMARKiED EQUAL TOcINCUNXcOTATION MARKaRABBIT",
   "g FACEcCCOONdING CARhMOTORCYCLEcDICAL SYMBOL BOTTOMeOf BUTTONfACTIVE SIGNcILWAY CARiTRACKdN",
   "eBOWdSED BACK OF HANDhCOMMAhDOTkTED INTERPOLATION MARKERhFISThHANDl WITH FINGERS SPLAYED",
   "rPART BETWEEN MIDDLE AND RING FINGERShINTERPOLATION MARKERhMC SIGNiD SIGNiR SIGNhSQUAREcMcTdIO",
   "cZORbECEIPTdORD SEPARATORdREATIONAL VEHICLEdYCLED PAPER SYMBOL",
   "gING SYMBOL FOR GENERIC MATERIALSvTYPE-1 PLASTICSzb2 PLASTICSzb3 PLASTICSzb4 PLASTICS",
   "zb5 PLASTICSzb6 PLASTICSzb7 PLASTICScD APPLEeGIFT ENVELOPEcFERENCE MARK",
   "cGIONAL INDICATOR SYMBOL LETTER AziBziCziDziEziFziGziHziIziJziKziLziMziNziOziPziQziRziSziTziU",
   "ziVziWziXziYziZeSTERED SIGNcJANG CONSONANT SIGN HwNxGwRhLETTER AoBAoCAoDAoGAoHAoJAoKAoLAoMApBA",
   "oNApDApGAqGApYAqJAoPAoRAoSAoTAoWAoYAhSECTION MARKhVIRAMAiOWEL SIGN AItUsEtAtUsIsOsU",
   "cLIEVED FACEcMINDER RIBBONcPLACEMENT CHARACTERcSPONSEdTRICTED LEFT ENTRY-1w2fOOMcTURN LEFT",
   "hRIGHThSYMBOLcVERSE CHECKER BOARDiINDEXiLIGHT FOUR POINTED PINWHEEL STARkNE FEEDiSOLIDUS",
   "p OPERATORqPRECEDING SUBSETqWITH HORIZONTAL STROKEiTILDE OPERATOR ABOVE LEFTWARDS ARROW",
   "zeRIGHTWARDS ARROWhD ANGLEo WITH UNDERBARjCOMMAjDOUBLE PRIMEv QUOTATION MARKqSTROKE NOT SIGN",
   "jEMPTY SETjFORKED PARAGRAPHOSjHAND WITH MIDDLE FINGER EXTENDEDjNOT SIGNjPILCROW SIGNkRIME",
   "jQUESTION MARKjRAISED HAND WITH FINGERS SPLAYEDkIGHT ANGLEkOTATED FLORAL HEART BULLET",
   "jSANS-SERIF CAPITAL LkEMICOLONjTHUMBS DOWN SIGNqUP SIGNkILDEo EQUALSkRIPLE PRIMEjVICTORY HAND",
   "dOLVING HEARTSbHINOCEROSbIcAL SIGNcBBONg ARROW DOWN LEFTsRIGHTnLEFT DOWNsUPnRIGHT DOWNtUP",
   "nUP LEFTqRIGHTcCE BALLfCRACKERcFLEcGHT AND LOWER ONE EIGHTH BLOCKkUPPER ONE EIGHTH BLOCK",
   "iGER BUBBLEjLEl BRACKETt WITH DOTmDOTTED SUBSTITUTION MARKERmSUBSTITUTION MARKER",
   "mVARIANT WITH SQUAREmWITH ARCrDOWNWARDS ZIGZAG ARROWhRC GREATER-THAN BRACKET",
   "iROW WITH CIRCLED PLUSrSMALL CIRCLEgBLACK LENTICULAR BRACKETmTORTOISE SHELL BRACKETgCEILING",
   "hORNER BRACKEThURLY BRACKETt LOWER HOOKuMIDDLE PIECEuUPPER HOOKgDOTTED SUBSTITUTION BRACKET",
   "iUBLE ANGLE BRACKEToRROW WITH ROUNDED HEADnPARENTHESISnQUOTATION MARKnWIGGLY FENCEgFISH TAIL",
   "iVE EIGHTHS BLOCKhLOORgHALF BLACK CIRCLErSTARnOCKlFOLDERlMEDIUM SHADElRUNNING MAN",
   "iND TELEPHONE RECEIVERgLOW PARAPHRASE BRACKETgNORMAL FACTOR SEMIDIRECT PRODUCT",
   "gONE EIGHTH BLOCKkQUARTER BLOCKhPEN SQUARED DOThUTER JOINgPARENTHESISr EXTENSIONsLOWER HOOK",
   "sUPPER HOOKgRAISED OMISSION BRACKETgS-SHAPED BAG DELIMITERhEMIDIRECT PRODUCTiVEN EIGHTHS BLOCK",
   "hIDEWAYS U BRACKETiNGLE QUOTATION MARKhPEAKERn WITH ONE SOUND WAVEtTHREE SOUND WAVES",
   "jECH BUBBLEhQUARE BRACKETu EXTENSIONvLOWER CORNERvUPPER CORNERvWITH DOUBLE STROKEzbQUILL",
   "zbSTROKEzbTICK IN BOTTOM CORNERzjTOP CORNERzbUNDERBARhUBSTITUTION BRACKETgTACK",
   "hHIRD WHITE RIGHT POINTING INDEXiOUGHT BUBBLEiREE EIGHTHS BLOCKmQUARTERS BLOCK",
   "hORTOISE SHELL BRACKEThRANSPOSITION BRACKETiIANGLEo ABOVE LEFT TRIANGLEmULAR ONE QUARTER BLOCK",
   "gVERTICAL BAR WITH QUILLqOX LINEgWHITE CORNER BRACKETnURLY BRACKETmLENTICULAR BRACKET",
   "mPARENTHESISmSQUARE BRACKETmTORTOISE SHELL BRACKEThIGGLY FENCEf-FACING ARMENIAN ETERNITY SIGN",
   "nFISTnSVASTI SIGNy WITH DOTSgHANDED INTERLACED PENTAGRAMgPOINTING ANGLE BRACKET",
   "pCURVED ANGLE BRACKETpDOUBLE ANGLE QUOTATION MARKpMAGNIFYING GLASS",
   "gSHADED WHITE RIGHTWARDS ARROWhIDE ARC CLOCKWISE ARROWgTO-LEFT EMBEDDINGoISOLATEoMARKoOVERRIDE",
   "fHAND INTERIOR PRODUCTfWARDS ARROWq ABOVE ALMOST EQUAL TOxREVERSE ALMOST EQUAL TO",
   "zgTILDE OPERATORxSHORT LEFTWARDS ARROWxTILDE OPERATORsND UPPER AND LOWER ONE EIGHTH BLOCK",
   "rFROM BARz TO BLACK DIAMONDrOVER LEFTWARDS ARROWrTHROUGH GREATER-THANzSUPERSETzXsO BAR",
   "vLACK DIAMONDrWITH CORNER DOWNWARDSwDOTTED STEMyUBLE VERTICAL STROKEwEQUILATERAL ARROWHEAD",
   "wHOOKwLARGE TRIANGLE ARROWHEADxOOPwMEDIUM TRIANGLE ARROWHEADwNOTCHED TAILwPLUS BELOW",
   "wSMALL EQUILATERAL ARROWHEADzdTRIANGLE ARROWHEADxTROKEwTAILzb WITH DOUBLE VERTICAL STROKE",
   "zhVERTICAL STROKExIP DOWNWARDSzbUPWARDSwVERTICAL STROKEq-TAILlBACK-TILTED SHADOWED WHITE ARROW",
   "mLACK ARROWrCIRCLED WHITE ARROWmOTTOM SHADED WHITE ARROWlCOMPRESSED ARROWlDASHED ARROW",
   "mOUBLE ARROWx FROM BARyWITH STROKEzeVERTICAL STROKEx-TAILsDASH ARROWlFINGER-POST ARROW",
   "mRONT-TILTED SHADOWED WHITE ARROWlHANDnRPOON OVER LEFTWARDS HARPOON",
   "tWITH BARB DOWN ABOVE LEFTWARDS HARPOON WITH BARB DOWNzjBELOW LONG DASHzjFROM BARzjTO BAR",
   "ziWARDSzeUP ABOVE LEFTWARDS HARPOON WITH BARB UPzoONG DASHznRIGHTWARDS HARPOON WITH BARB DOWN",
   "zhFROM BARzhTO BARzgWARDSmEAVY ARROWrCOMPRESSED ARROWlLEFT-SHADED WHITE ARROW",
   "lOPEN-HEADED ARROWlPAIRED ARROWSlQUADRUPLE ARROWlRIGHT-SHADED WHITE ARROWmOCKET",
   "lSANS-SERIF ARROWmQUARED ARROWoIGGLE ARROWlTOP SHADED WHITE ARROWmRIANGLE ARROWHEAD",
   "t-HEADED ARROWzh OVER LEFTWARDS TRIANGLE-HEADED ARROWziTO BARziWITH BOLD SHAFT",
   "znDOUBLE HORIZONTAL STROKEzuVERTICAL STROKEznHEAVY SHAFTznLONG TIP DOWNWARDSzwUPWARDS",
   "znMEDIUM SHAFTznNARROW SHAFTznVERY HEAVY SHAFTzcDASHED ARROWzcPAIRED ARROWSoPLE ARROW",
   "sDASH ARROWmWO HEADED ARROWo-HEADED ARROW FROM BARzdWITH DOUBLE VERTICAL STROKEziTAIL",
   "zm WITH DOUBLE VERTICAL STROKEzsVERTICAL STROKEzjRIANGLE ARROWHEADSziVERTICAL STROKE",
   "wTRIPLE DASH ARROWlWAVE ARROWmHITE ARROWw FROM WALLxWITHIN TRIANGLE ARROWHEADcNGe ABOVEfBUOY",
   "fEQUAL TOfIN EQUAL TOfOPERATORfPOINTeED PLANETeING BELL",
   "cSING DIAGONAL CROSSING FALLING DIAGONALzSOUTH EAST ARROWbLEcIcMcObOASTED SWEET POTATO",
   "cBOT FACEcCKeETcLL OF PAPEReED-UP NEWSPAPERfR COASTERhSKATEeING ON THE FLOOR LAUGHING",
   "cMAN AS SIGNgCENTURIAL SIGNgDENARIUS SIGNhIMIDIA SEXTULA SIGNhUPONDIUS SIGNgNUMERAL EIGHT",
   "pLEVENoFIFTYt EARLY FORMuTHOUSANDqVEs HUNDREDtTHOUSANDpOURoNINEoONEr HUNDREDz THOUSAND",
   "sTHOUSANDzb C DoREVERSED ONE HUNDREDoSEVENpIXr LATE FORMoTENr THOUSANDpHREEpWELVEqO",
   "gQUINARIUS SIGNgSEMUNCIA SIGNiSTERTIUS SIGNiXTANS SIGNkULA SIGNhILIQUA SIGNgUNCIA SIGNcOSTER",
   "cSEeTTEcTATED CAPITAL QiFLORAL HEART BULLETiHEAVY BLACK HEART BULLET",
   "iLIGHT FOUR POINTED BLACK CUSPiWHITE FOUR POINTED CUSPcUND PUSHPINgTARGETfED SYMBOL FOR CAItFU",
   "tLUtSHOUvUANGXItXIcWBOATbSbUBLE SIGNcGBY FOOTBALLcLE-DELAYEDcMI DIGIT EIGHTlFIVEmOURlNINElONE",
   "lSEVENmIXlTHREEmWOfFRACTION ONE HALFsQUARTERsTHIRDoTWO THIRDSfNUMBER EIGHT HUNDREDrYmFIFTY",
   "oVE HUNDREDnORTYoUR HUNDREDmNINE HUNDREDqTYmONE HUNDREDmSEVEN HUNDREDrTYnIX HUNDREDpTYmTEN",
   "nHIRTYoREE HUNDREDnWENTYoO HUNDREDcNIC ARLAUG SYMBOLgBELGTHOR SYMBOLgCROSS PUNCTUATION",
   "gLETTER AC AoESCoLGIZ EOLHXoNSUZ AnBERKANAN BEORC BJARKAN BnCoALCoEALCpNoWEORTHnDoAGAZ DAEG D",
   "oOTTED-LuNuPnEoARoHWAZ EH EoNGoTHnFEHU FEOH FE FoRANKS CASKET ACzdESCzcEHzcISzcOSnGoAR",
   "oEBO GYFU GpRnHAEGL HpGLAZ HnICELANDIC-YRoNGqWAZoORoSAZ IS ISS IoWAZ EOHnJERAN JnKoAUN KrA",
   "nLAUKAZ LAGU LOGR LoONG-BRANCH-AR AEzHAGALL HzMADR MzOSS OzYRnMANNAZ MAN MnNAUDIZ NYD NAUD NnO",
   "oEoNoOoPEN-PoS OoTHALAN ETHEL OnPERTHO PEORTH PnQnRAIDO RAD REID RnSHpORT-TWIG-AR AyBJARKAN B",
   "yHAGALL HyMADR MyNAUD NyOSS OySOL SyTYR TyYRoIGEL LONG-BRANCH-SOL SoOWILO SoTAN",
   "nTHURISAZ THURS THORNoIWAZ TIR TYR TnURUZ UR UnVnWoUNJO WYNN WnXnYoRnZgMULTIPLE PUNCTUATION",
   "gSINGLE PUNCTUATIONgTVIMADUR SYMBOLdNEReING SHIRT WITH SASHcPEE SIGN",
   "cSSIAN ASTROLOGICAL SYMBOL BINOVILEzdNOVILEzdQUINTILEzdSENTAGONzdTREDECILEzdVIGINTILE",
   "aS IN TRIANGLEbAFETY PINhVESTcGITTARIUScILBOATcKE BOTTLE AND CUPcLT SHAKEReIREdUTING FACE",
   "cMARITAN ABBREVIATION MARKkLETTER ALAFrBAAsITrDALATrFIrGAMANrINsTsYrKAAFrLABATrMIMrNUNrQUF",
   "rRISHrSHANsINGAATrTAAFsITsSAADIYrYUTrZENkMARK DAGESHpEPENTHETIC YUTpINr-ALAFpNEQUDAApOCCLUSION",
   "lODIFIER LETTER EPENTHETIC YUTzbIzbSHORT AkPUNCTUATION AFSAAQxNGEDyNAAUxRKAANUxTMAAUwBAU",
   "wMELODIC QITSAwNEQUDAAwQITSAwSHIYYAALAAxOF MASHFAATwTURUwZAEFxIQAAkVOWEL SIGN AwAvEvIvLONG A",
   "zcAzbEzbIzbUvOwVERLONG AzgAvSHORT AwUKUNvUcNDWICH",
   "dS-SERIF HEAVY DOUBLE COMMA QUOTATION MARK ORNAMENTyTURNED COMMA QUOTATION MARK ORNAMENT",
   "rLOW DOUBLE COMMA QUOTATION MARK ORNAMENTlINTERROBANG ORNAMENTcRIcTELLITEj ANTENNAdURN",
   "cURASHTRA CONSONANT SIGN HAARUlDANDAmIGIT EIGHTrFIVEsOURrNINErONErSEVENsIXrTHREEsWOrZERO",
   "mOUBLE DANDAlLETTER AtAtItUsBAtHAsCAtHAsDAtDAuHAtHAsEtEsGAtHAsHAsItIsJAtHAsKAtHAsLAtLAsMAsNA",
   "tGAtNAtYAsOtOsPAtHAsRAsSAtHAtSAsTAtHAtTAuHAsUtUsVAtOCALIC LzcLzbRzcRsYAlSIGN ANUSVARA",
   "qCANDRABINDUqVIRAMAsSARGAlVOWEL SIGN AAxIxUwExEwIxIwOxOwUxUwVOCALIC LzgLzfRzgReOPODcXOPHONE",
   "bCALESdRFcHOOLg SATCHELcIcOOTERdRPIONgUScREENeWDRIVERdIPT CAPITAL BpEpFpHpIpLpMpPpR",
   "hLIGATURE ET ORNAMENThSMALL EnGnLnOdOLLdUPLEbEALdTcCOND PLACE MEDALdTION SIGNeORcDNA",
   "cE-NO-EVIL MONKEYdDLINGcGMENThED DIGIT EIGHTqFIVErOURqNINEqONEqSEVENrIXqTHREErWOqZEROcLFIE",
   "cMICOLONeDIRECT PRODUCT WITH BOTTOM CLOSEDeSEXTILEcPARATED SYMBOL",
   "cRIOUS FACE WITH SYMBOLS COVERING MOUTHdVICE MARKcSAME DOTdQUIQUADRATEcT MINUSeTRANSMIT STATE",
   "cWING NEEDLEcXTILEbGCbHADOWED WHITE CIRCLEpLATIN CROSSpSTARdLLOW PAN OF FOODdMROCK",
   "dRADA ABBREVIATION SIGNiCONTINUATION SIGNiDANDAjIGIT EIGHToFIVEpOURoNINEoONEoSEVENpIXoTHREEpWO",
   "oZEROjOUBLE DANDAiEKAMjXTRA SHORT VOWEL MARKiHEADSTROKEiLETTER AqAqIqUpBAqHApCAqHApDAqDArHAqHA",
   "pEpGAqHApHApIqIpJAqHApKAqHApLAqLApMApNAqGAqNAqYApOpPAqHApRApSAqHAqSApTAqHAqTArHApUqUpVA",
   "qOCALIC LyLxRyRpYAiOMiSANDHI MARKjECTION MARK-1v2kPARATORjIGN ANUSVARAoVAGRAHAnCANDRABINDU",
   "nINVERTED CANDRABINDUnJIHVAMULIYAnNUKTAnSIDDHAMnUPADHMANIYAnVIRAMApSARGAjUTRA MARK",
   "iVOWEL MODIFIER MARKoSIGN AAuIuUtEtIuItOtPRISHTHAMATRA EtUuUtVOCALIC LzdLzcRzdReKdVED ICE",
   "eIAN LETTER ADOqGEqHqIRqRErRAYqSHqWEpBIBpCHURCHpDEADpEARrTqGGqRRpFEEpGAGpHA-HAqUNGpIANqCEqF",
   "pJUDGEpKICKpLOLLpMEASUREqIMEpNUNpOAKqILqNqOZEqRqUTpPEEPpROARpSOqUREpTHEYrIGHqOTpUPpVOWpWOErOL",
   "pYEArWpZOOcEEPcIELDdFT INgOUTdNTO SHRINEdPcOCKED FACE WITH EXPLODING HEADdOTING STAR",
   "dPPING BAGSjTROLLEYdRT BACKSLANTED SOUTH ARROWhENT ARROW POINTING DOWNWARDS THEN NORTH EAST",
   "gDOWN TACKp WITH OVERBARgLEFT TACKgRIGHTWARDS ARROW ABOVE LEFTWARDS ARROWgSLANTED NORTH ARROW",
   "gUP TACKn ABOVE SHORT DOWN TACKoWITH UNDERBARfCAKEfHAND FORMAT CONTINUING OVERLAPrDOWN STEP",
   "rLETTER OVERLAPrUP STEPfSdULDERED OPEN BOXdWERcRIMPdUGcUFFLE PRODUCTcYbIcDDHAM DANDA",
   "jOUBLE DANDAiEND OF TEXT MARKiLETTER AqAqIqLTERNATE UqUpBAqHApCAqHApDAqDArHAqHApEpGAqHApHApIqI",
   "pJAqHApKAqHApLApMApNAqGAqNAqYApOpPAqHApRApSAqHAqSApTAqHArREE-CIRCLE ALTERNATE IqTArHA",
   "qWO-CIRCLE ALTERNATE IzmIpUqUpVAqOCALIC LyLxRyRpYAiREPETITION MARK-1y2y3",
   "iSECTION MARK DOUBLE RINGzh WITH RAYSvWITH CIRCLES AND FOUR ENCLOSURESznRAYSznTWO ENCLOSURES",
   "zbDOUBLE CRESCENTSzbQUADRUPLE CRESCENTSzbRAYS AND DOTTED CRESCENTSzrDOUBLE CRESCENTS",
   "zrTRIPLE CRESCENTSzbSEPTUPLE CRESCENTSzbTRIDENT AND DOTTED CRESCENTSznU-SHAPED ORNAMENTS",
   "zePLE CRESCENTSkPARATOR BARsDOTjIGN ANUSVARAnCANDRABINDUnNUKTAnSIDDHAMnVIRAMApSARGA",
   "iVOWEL SIGN AAuIuLTERNATE UzfUuUtEtIuItOtUuUtVOCALIC RzdRdEWAYS BLACK DOWN POINTING INDEX",
   "pLEFT POINTING INDEXpRIGHT POINTING INDEXpUP POINTING INDEXjWHITE DOWN POINTING INDEX",
   "pLEFT POINTING INDEXpRIGHT POINTING INDEXpUP POINTING INDEXcGN OF THE HORNS",
   "eWRITING AIR BLOW SMALL ROTATIONSuING OUTqSUCK SMALL ROTATIONSuING INmBREATH EXHALEtINHALE",
   "oUSH BETWEENsMULTIPLEsSINGLEmCHEEKS NEUTRALtPUFFEDtSUCKEDnOLONoMMA",
   "mDREAMY EYEBROWS DOWN NEUTRALzdNEUTRAL DOWNzlUPzdUP NEUTRALnYNAMIC ARROWHEAD LARGEzfSMALL",
   "uEVERY OTHER TIMEuFASTuGRADUALuRELAXEDuSIMULTANEOUSzh ALTERNATINGvLOWuTENSEmEARSnXCITEMENT",
   "nYE BLINK MULTIPLEwSINGLEqWINKpBROWS STRAIGHT DOWNzfNEUTRALzfUPpGAZE-FLOORPLANE CURVED",
   "zgSTRAIGHTzo ALTERNATINGzpDOUBLEuWALLPLANE CIRCLINGzgURVEDzfSTRAIGHTzn ALTERNATINGzoDOUBLE",
   "pLASHES DOWNwFLUTTERINGwUPpS CLOSEDrHALF CLOSEDwOPENrOPENrSQUEEZEDrWIDE OPENvNING MOVEMENT",
   "mFACE DIRECTION POSITION NOSE FORWARD TILTINGzqUP OR DOWNzzb TILTINGnILL MODIFIER-2zb3zb4zb5",
   "zb6oNGERnLICK LARGE MULTIPLEySINGLEsSEQUENTIALtMALL MULTIPLEySINGLEoOORPLANE SHOULDER HIP MOVE",
   "nOREHEAD CONTACTvNEUTRALvWRINKLEDnULL STOPmGRASP BETWEENsMULTIPLEsSINGLEmHAIRoND-ANGLEw INDEX",
   "zd MIDDLE LITTLEzlRINGzeRING LITTLEzp OUTzeTHUMBzj INzkOUTxLITTLE INDEXzk THUMB INDEX THUMB",
   "zzd OUTzfUPxMIDDLE RING LITTLEzq INzrOUTxRING DOWN MIDDLE THUMB INDEX CROSSzdLITTLErCIRCLE",
   "x INDEXze BENTzfHINGEzfMIDDLEzl CROSS LITTLEzrEDzmLITTLEzmRINGzmTHUMBzfRING LITTLE",
   "yLITTLE INDEXzgUPyMIDDLE RING LITTLEzr BENTzgUPyRING LITTLEsLAWv FOUR FINGERS CONJOINED",
   "wINDEX THUMB CURVE THUMB INSIDEwMIDDLE RING LITTLE CONJOINEDzz SIDEwNO THUMBwTHUMB FORWARD",
   "zdSIDEsUPu FIVE FINGERS SPREADzp OPENvINDEXzb RING LITTLEzcTHUMBzh OPENvMIDDLE RING LITTLE",
   "vNO THUMBvOPENz NO THUMBzbTHUMB FORWARDzhSIDEvTHUMB FORWARDzcSIDEtRLICUEz INDEX RING LITTLE ON",
   "zbMIDDLE RING LITTLE ONzbOPENrFISTv FOUR FINGERS CONJOINED BENTwHEELwINDEXzc BENT",
   "zh OVER MIDDLEzdCUPPEDzdHINGEDzj LOWzkMIDDLE UPzt THUMB SIDEzdMIDDLEzj BENTzo THUMB STRAIGHT",
   "zkCONJOINEDzt CUPPEDzzb THUMB FORWARDzuHINGEDzzb THUMB SIDEzuINDEX BENTzuMIDDLE BENT",
   "zuTHUMB FORWARDzzbSIDEzzf BENTzzgCONJOINEDzlROSS LITTLEzpEDzr THUMB SIDEzkHINGED",
   "zq SPREAD THUMB SIDEzkLITTLEzkRAISED KNUCKLESzlINGzo BENTzpCONJOINEDzkSTRAIGHT THUMB BENT",
   "zkTHUMBzp ANGLEDzw OUTzqBENTzqCIRCLEDzrONJOINED HINGEDzrUPPEDzqHINGEDzrOOKED",
   "zkUP SPREAD THUMB FORWARDzdRAISED KNUCKLEzeING LITTLEzdTHUMB ANGLED IN MIDDLE UP",
   "zqOUT MIDDLE UPzjCIRCLEzpD MIDDLE UPzkUPPED MIDDLE UPzlRLICUEzmVE THUMB INSIDEzvUNDER",
   "zjFORWARD INDEX BENTzxSTRAIGHTzjHOOKznED MIDDLE HINGEDzxUPzjSIDEzn BOTH BENTzoINDEX BENT",
   "zuHINGEzoTHUMB BENTzuCONJOINEDzuDIAGONALzdUP MIDDLE HINGEDzt THUMB CONJOINEDzzbSIDE",
   "wLITTLE BENTzeDOWNzi OTHERS CIRCLEDzjRIPPLE CURVEDzqSTRAIGHTzeINDEXzj THUMBzeRAISED KNUCKLE",
   "zeTHUMBzfOUCHES THUMBzeUPwMIDDLE BENT OVER INDEXzeDOWNzeLITTLEzeRAISED KNUCKLEzfING LITTLE",
   "zeTHUMB ANGLED INDEX UPzrOUT INDEX CROSSEDzzcUPzkCIRCLED INDEX HINGEDzyUPzlUPPED INDEX UP",
   "zkHOOKED INDEX UPzkLITTLEzeUPzg THUMB SIDEwRING DOWNzcINDEXzcLITTLEzcMIDDLEzi CONJOINED",
   "zjRAISED KNUCKLESzcRAISED KNUCKLEzcTHUMBzcUPwTHUMBzc BETWEEN INDEX MIDDLEzx STRAIGHT",
   "zlMIDDLE RINGzlRING LITTLEzdFORWARDzdHEELzdOVER FOUR RAISED KNUCKLESziTWO FINGERSzdSIDE BENT",
   "ziCONJOINEDziDIAGONALzdUNDER FOUR FINGERSzjINDEX BENTzjLITTLE UPzjTHREE FINGERSzkWO FINGERS",
   "sLATv BETWEEN PALM FACINGSwFIVE FINGERS SPREADzq BENTzrFOUR BENTzrHINGEDzx NO THUMB",
   "zyTHUMB SIDEzrTHUMB FORWARDxOUR FINGERSzj BENTzkCONJOINEDzt SPLITzkHINGEDwHEEL",
   "zb FIVE FINGERS SPREADzv BENTzwFOUR BENTzcTHUMB SIDEwSPLIT CENTREzj THUMB SIDEzu BENT",
   "zdINDEX THUMB SIDEzdLITTLEwTHUMB BENTzdFORWARDzdSIDErHINGEw FIVE FINGERS SPREAD OPEN",
   "yOUR FINGERS CONJOINEDxINDEXzd HINGEDzeMIDDLE LITTLEzlRINGzp CONJOINEDzeRING LITTLEzeTHUMB",
   "zj LARGEzkOPENzkSIDEzlMALLxLITTLEze INDEXzk THUMBzfTHUMBxMIDDLEze RING LITTLExNO THUMBxOPEN",
   "zc NO THUMBzdTHUMB FORWARDzjSIDExRINGzc DOWN INDEX THUMB HOOK MIDDLExSMALL",
   "xTHUMB BETWEEN MIDDLE RINGzeSIDEzi TOUCHING INDEXsOOKv CURLICUEwINDEX RING LITTLE INzpOUT",
   "zpUNDERwMIDDLE RING LITTLE CONJOINEDzz INzzbOUTzeTHUMBwRING THUMBrOVALv FIVE FINGERS SPREAD",
   "wINDEXwLITTLE UPwNO THUMBwRING LITTLEwTHUMB FORWARDzdSIDEnEADq MOVEMENT CIRCLE",
   "z-FLOORPLANE CURVEzmSTRAIGHTzbWALLPLANE CURVEzlSTRAIGHTzlTILTrRIMmLIMB COMBINATIONrLENGTH-1y2",
   "y3y4y5y6y7oP LOWER OVER UPPERqUPPER OVER LOWERpS PRESSED TOGETHERnOCATION DEPTHvHEAD NECKxIGHT",
   "vLIMBS DIGITSvTORSOvWIDTHu-FLOORPLANE SPACEvWALLPLANE SPACEmMOUTH CLOSED CONTACTzFORWARD",
   "zNEUTRALtORNERSsFROWNx OPENyWRINKLEDsKISSw FORWARDxWRINKLEDsOPEN CIRCLExFORWARDxOVAL",
   "zc WRINKLEDzdYAWNxRECTANGLEzh WRINKLEDziYAWNxWRINKLEDsSMILEx OPENyWRINKLEDsTENSEx FORWARD",
   "ySUCKEDsWRINKLES DOUBLEzcSINGLEoVEMENT-DIAGONAL AWAY LARGEzpSTzkMEDIUMzkSMALL",
   "zfBETWEEN AWAY LARGEzxSTzsMEDIUMzsSMALLznTOWARDS LARGEzzbSTzvMEDIUMzvSMALLzfTOWARDS LARGEzsST",
   "znMEDIUMznSMALLvFLOORPLANE ARM CIRCLE HITTING WALL LARGE DOUBLEzzmSINGLEzzgMEDIUM DOUBLE",
   "zznSINGLEzzgSMALL DOUBLEzzmSINGLEzhBENDziOX LARGEzlMEDIUMzlSMALLzhCHECKziORNER LARGEzoMEDIUM",
   "zoSMALLziROSSziURVE COMBINEDznHITTING CEILING LARGEzzeSMALLzvFLOOR LARGEzzcSMALLznLARGEzsST",
   "znMEDIUMznSMALLzhDOUBLE ALTERNATINGzz WRIST FLEXzoSTRAIGHTzoWRIST FLEX",
   "zhFINGER CIRCLES HITTING WALL DOUBLEzzkSINGLEzpONTACTzhHUMP HITTING CEILING LARGE DOUBLE",
   "zzjTRIPLEzzdSMALL DOUBLEzzjTRIPLEzuFLOOR LARGE DOUBLEzzbSMALL DOUBLEzzbTRIPLE LARGE TRIPLE",
   "zziSMALL TRIPLEzmSMALLzhJAWzhLOOP HITTING CEILING LARGE DOUBLEzzjSINGLEzzdSMALL DOUBLE",
   "zzjSINGLEzuFLOOR LARGE DOUBLEzzhSINGLEzzbSMALL DOUBLEzzhSINGLEzmSMALLzhPEAKS LARGEznMEDIUM",
   "znSMALLzhSHAKING PARALLELziINGLE STRAIGHT LARGEzzdSTzxMEDIUMzxSMALLzoWRIST FLEX",
   "zhTRIPLE ALTERNATING MOVEMENTzzbWRIST FLEXzoSTRAIGHT MOVEMENTzoWRIST FLEX",
   "zhWAVE HITTING CEILING LARGEzzdSMALLzuFLOOR LARGEzzbSMALLzmLARGEzmSMALLznNAKE",
   "ziRIST CIRCLE HITTING WALL DOUBLEzziSINGLEzhZIGZAG LARGEzoMEDIUMzoSMALLvHINGE DOWN SEQUENTIAL",
   "zcSIDE TO SIDE SCISSORSzcUP DOWN ALTERNATING LARGEzwSMALLzkLARGEzkSMALLzfSEQUENTIAL",
   "vWALLPLANE ARM CIRCLE MEDIUM DOUBLEzySINGLEzrSMALL DOUBLEzxSINGLEzgBEND LARGEzlMEDIUMzlSMALL",
   "zhOX LARGEzkMEDIUMzkSMALLzgCHECK LARGEzmMEDIUMzmSMALLzhORNER LARGEznMEDIUMznROTATIONznSMALL",
   "zhROSSzhURVE HALF-CIRCLE LARGEzzeSTzyMEDIUMzySMALLznITTING CHESTzuFRONT WALLzmQUARTER LARGE",
   "zzSTzuMEDIUMzuSMALLzmTHEN STRAIGHTzoREE-QUARTER CIRCLE MEDIUMzziSMALLzlD CROSS MEDIUMztSMALL",
   "zgDOUBLE ALTERNATINGzy WRIST FLEXznSTRAIGHTznWRIST FLEXzgFINGER CIRCLES DOUBLEzvSINGLEzoONTACT",
   "zgHUMP HITTING CHESTztFRONT WALLzlLARGEzlMEDIUMzlSMALLzgJAWzgLOOP HITTING CHESTztFRONT WALL",
   "zlLARGEzlMEDIUMzlSMALLzq DOUBLEzgPEAKS LARGEzmMEDIUMzmSMALLzgSHAKINGzhINGLE STRAIGHT LARGE",
   "zzcSTzwMEDIUMzwSMALLznWRIST FLEXzgTRIPLE ALTERNATINGzy WRIST FLEXznSTRAIGHT MOVEMENT",
   "znWRIST FLEXzgWAVE CURVE DOUBLE LARGEzyMEDIUMzySMALLzrTRIPLE LARGEzyMEDIUMzySMALL",
   "zlDIAGONAL PATH LARGEzzMEDIUMzzSMALLzlHITTING CHESTztFRONT WALLzhRIST CIRCLE FRONT DOUBLE",
   "zzSINGLEzgZIGZAG LARGEznMEDIUMznSMALLmNECKnOSE CONTACTrNEUTRALrWIGGLESsRINKLESmPARENTHESIS",
   "mROTATION MODIFIER-10zg1zg2zg3zg4zg5zg6zf2zf3zf4zf5zf6zf7zf8zf9u-FLOORPLANE ALTERNATING",
   "zs HITTING CEILINGzzcFLOORzhDOUBLEzn HITTING CEILINGzwFLOORzhSINGLEzn HITTING CEILINGzwFLOOR",
   "vWALLPLANE ALTERNATEzoING HITTING CHESTzzbFRONT WALLzgDOUBLEzm HITTING CHESTzvFRONT WALL",
   "zgSINGLEzm HITTING CHESTzvFRONT WALLnUB BETWEENqMULTIPLEqSINGLEmSEMICOLON",
   "nHOULDER HIP POSITIONSzSPINEvTILTING FROM WAISTnQUEEZE FLICK ALTERNATINGuLARGE MULTIPLE",
   "zbSINGLEuSEQUENTIALvMALL MULTIPLEzbSINGLEnTRIKE BETWEENtMULTIPLEtSINGLEnURFACE BETWEENuSYMBOLS",
   "mTEETHr BITE LIPSsMOVEMENTsON LIPSz MOVEMENTvTONGUEzc MOVEMENToNSE CHEEKS HIGHzLOWzMIDDLE",
   "nONGUE CENTRE INSIDE MOUTHzbSTICKING OUTtINSIDE MOUTH RELAXEDtLICKING LIPStMOVES AGAINST CHEEK",
   "tSTICKING OUT FARtTIP BETWEEN LIPSxTOUCHING INSIDE MOUTHoRSO-FLOORPLANE TWISTING",
   "sWALLPLANE CURVED BENDzdSTRAIGHT STRETCHoUCH BETWEENsMULTIPLEsSINGLE",
   "nRAVEL-FLOORPLANE ROTATION-FLOORPLANE ALTERNATINGzzDOUBLEzzSINGLEzoWALLPLANE ALTERNATING",
   "zyDOUBLEzySINGLEzfSHAKINGtWALLPLANE ARM SPIRAL DOUBLEzpSINGLEzpTRIPLE",
   "zeROTATION-FLOORPLANE ALTERNATINGzyDOUBLEzySINGLEznWALLPLANE ALTERNATINGzxDOUBLEzxSINGLE",
   "zeSHAKINGmUPPER BODY TILTING FROM HIP JOINTSmWALLPLANE SHOULDER HIP MOVEcLHOUETTE OF JAPAN",
   "cMILAR ABOVE GREATER-THAN ABOVE EQUALS SIGNoLESS-THAN ABOVE EQUALS SIGNiMINUS SIMILAR",
   "iOR GREATER-THANlLESS-THANcNE WAVEdGLE CHARACTER INTRODUCERhGRAPHIC CHARACTER INTRODUCER",
   "hHIGH-REVERSED-9 QUOTATION MARKhLEFT-POINTING ANGLE QUOTATION MARKiOW-9 QUOTATION MARK",
   "hRIGHT-POINTING ANGLE QUOTATION MARKhSHIFT THREEoWOg-SHIFT-2n3dHALA ARCHAIC DIGIT EIGHTwFIVE",
   "xOURwNINEwONEwSEVENxIXwTHREExWOqNUMBER EIGHTYxFIFTYyORTYxNINETYxONE HUNDREDzcTHOUSANDxSEVENTY",
   "yIXTYxTENyHIRTYyWENTYiLETTER AAYANNAqEEYANNArYANNAqIYANNAqLPAPRAANA BAYANNAzbCAYANNAzbDAYANNA",
   "zcDAYANNAzbGAYANNAzbJAYANNAzbKAYANNAzbPAYANNAzbTAYANNAzcTAYANNAqMBA BAYANNAqUYANNAqYANNA",
   "pDANTAJA LAYANNAxNAYANNAxSAYANNApEEYANNAqYANNApFAYANNApHAYANNApIIYANNAqLUUYANNAsYANNAqRUUYANNA",
   "sYANNAqYANNApKANTAJA NAASIKYAYApMAHAAPRAANA BAYANNAzcCAYANNAzcDAYANNAzdDAYANNAzcGAYANNA",
   "zcJAYANNAzcKAYANNAzcPAYANNAzcTAYANNAzdTAYANNArYANNAqUURDHAJA LAYANNAzNAYANNAzSAYANNApOOYANNA",
   "qYANNApRAYANNApSANYAKA DAYANNAyDAYANNAxGAYANNAxJAYANNApTAALUJA NAASIKYAYAxSANYOOGA NAAKSIKYAYA",
   "zYANNApUUYANNAqYANNApVAYANNApYAYANNAjITH DIGIT EIGHTtFIVEuOURtNINEtONEtSEVENuIXtTHREEuWOtZERO",
   "iPUNCTUATION KUNDDALIYAiSIGN AL-LAKUNAoNUSVARAYAnCANDRABINDUnVISARGAYAiVOWEL SIGN AELA-PILLA",
   "tDIGA AEDA-PILLAyGAETTA-PILLAzbYANUKITTAyIS-PILLAyKOMBUVAyPAA-PILLAtGAETTA-PILLAvYANUKITTA",
   "tKETTI AEDA-PILLAzIS-PILLAzPAA-PILLAuOMBU DEKAyVAzb HAA AELA-PILLAzgDIGA AELA-PILLA",
   "zgGAYANUKITTAcX PETALLED BLACK AND WHITE FLORETTEfOINTED BLACK STARmPINWHEEL STAR",
   "mSTAR WITH MIDDLE DOTd-PER-EM SPACEdTEEN POINTED ASTERISKbKATEBOARDcI AND SKI BOOTdERcULL",
   "f AND CROSSBONESdNKbLANTED EQUAL TO OR GREATER-THANzh WITH DOT INSIDEuLESS-THAN",
   "ze WITH DOT INSIDEiNORTH ARROW WITH HOOKED HEADzcRIZONTAL TAILdVONIC ASTERISKcED",
   "dEPING ACCOMMODATIONjFACEjSYMBOLfY FACEdUTH OR SPYcICE OF PIZZAdGHTLY FROWNING FACE",
   "jSMILING FACEcOPEeING LARGE ANDoORdT MACHINEeHbMALL AIRPLANEhMPERSANDhSTERISKgBLUE DIAMOND",
   "gCOLONiMMAkERCIAL ATiNTAINS AS MEMBERpWITH OVERBARuVERTICAL BAR AT END OF HORIZONTAL STROKE",
   "gDOLLAR SIGNgELEMENT OFq WITH OVERBARwVERTICAL BAR AT END OF HORIZONTAL STROKEhM DASH",
   "hQUALS SIGNhXCLAMATION MARKgFULL STOPgGREATER-THAN SIGNgHYPHEN-MINUSgIDEOGRAPHIC COMMA",
   "gLEFT CURLY BRACKETlPARENTHESISlTORTOISE SHELL BRACKETiSS-THAN SIGNgNUMBER SIGNgORANGE DIAMOND",
   "gPERCENT SIGNhLUS SIGNgQUESTION MARKgREVERSE SOLIDUShIGHT CURLY BRACKETmPARENTHESIS",
   "mTORTOISE SHELL BRACKEThOMAN NUMERAL EIGHTvLEVENuFIFTYwVEy HUNDREDvOURuNINEuONEx HUNDRED",
   "yTHOUSANDuSEVENvIXuTENvHREEvWELVEwOgSEMICOLONgTILDEhWO DOTS OVER ONE DOT PUNCTUATION",
   "gVEE WITH UNDERBARfER THANm OR EQUAL TOdSH PRODUCTcILEeING CAT FACE WITH HEART-SHAPED EYES",
   "wOPEN MOUTHiFACE WITH HALOtEART-SHAPED EYEStORNSsOPEN MOUTHzd AND COLD SWEATziSMILING EYES",
   "ziTIGHTLY-CLOSED EYESsSMILING EYESzf AND HAND COVERING MOUTHzkTHREE HEARTStUNGLASSESsTEAR",
   "dRKING FACEcOKING SYMBOLbNAILdKEcEEZING FACEcOW CAPPED MOUNTAINeBOARDEReFLAKEeMAN",
   "h WITHOUT SNOWbOcCCER BALLdKScFT HYPHENfICE CREAMfSHELL FLOPPY DISKeBALLeWARE-FUNCTION SYMBOL",
   "cGDIAN COMBINING CURVE ABOVEyBELOWsDOT ABOVEwBELOWsHOOK ABOVExBELOWsLONG HOOK BELOWsRESH BELOW",
   "sSTROKE BELOWsTWO DOTS ABOVEzcBELOWiINDEPENDENT SHINiLETTER ALEPHqYINpBETHpFETHpGIMELpHErTH",
   "pKAPHpLAMEDHqESHpMEMpNUNpPEpRESH-AYINpSADHErMEKHqHINpTAWpWAWpYODHpZAYINiNUMBER ONEs HUNDRED",
   "pTENqWENTYiPUNCTUATION CIRCLE WITH DOTuHALF CIRCLE WITH DOTuTWO CIRCLES WITH DOTS",
   "yVERTICAL BARSzm WITH DOTScHcLID QUILT SQUARE ORNAMENTzc IN BLACK SQUAREfUSh WITH OVERBAR",
   "cM SIGNcON WITH RIGHTWARDS ARROW ABOVEcRA SOMPENG DIGIT EIGHTtFIVEuOURtNINEtONEtSEVENuIXtTHREE",
   "uWOtZEROnLETTER AHuBAHuCAHuDAHuEEHvHuGAHuHAHuIHuJAHuKAHuLAHuMAEwHuNAHvGAHvYAHuOHuPAHuRAHuSAH",
   "uTAHuUHuVAHuYAHcScUND RECORDING COPYRIGHTdTH EAST ARROWq AND SOUTH WEST ARROW",
   "rCROSSING NORTH EAST ARROWrTO CORNERrWITH HOOKlBLACK ARROWlDOUBLE ARROWlPOINTING BUDuLEAF",
   "uVINE LEAFlSANS-SERIF ARROWlTRIANGLE-HEADED ARROWzh TO BARlWHITE ARROWgWEST ARROW",
   "q AND NORTH WEST ARROWrWITH HOOKlBLACK ARROWlDOUBLE ARROWlPOINTING BUDuLEAFuVINE LEAF",
   "lSANS-SERIF ARROWlTRIANGLE-HEADED ARROWzh TO BARlWHITE ARROWcYOMBO CLUSTER-INITIAL LETTER LA",
   "zgRAzgSAzhHAiFINAL CONSONANT SIGN -AzeBzeDzeGzeKzeLzeMzeNzfGzeRzeSzfHiGEMINATION MARK",
   "iHEAD MARK WITH MOON AND SUNzk AND FLAMEzpTRIPLE FLAMEiLETTER -ApApBAqHApCAqHApDAqDArHAqHAqZA",
   "pGAqHApHApJAqHApKAqHAqSSApLApMApNAqGAqNAqYApPAqHApRApSAqHAqSApTAqHAqSArHAqTArHApVApYApZAqHA",
   "iMARK DOUBLE SHADnPLUTAnSHADnTSHEGiSIGN ANUSVARAnJIHVAMULIYAnUPADHMANIYAnVISARGAjUBJOINER",
   "iTERMINAL MARK-1w2iVOWEL LENGTH MARKoSIGN AIuUtEtItOuEtUuEtVOCALIC LzcRbPcAdCEdGHETTIdRKLEhS",
   "gING HEARTcEAK-NO-EVIL MONKEYfERh WITH CANCELLATION STROKEnONE SOUND WAVEnTHREE SOUND WAVES",
   "fING HEAD IN SILHOUETTEdECH BALLOONeDBOATdSMILO SIGNcHERICAL ANGLEp OPENING LEFTyUPcIDERg WEB",
   "dRAL CALENDAR PADhNOTE PADhSHELLcLASHING SWEAT SYMBOLcONGEdOL OF THREADeNdRTS MEDAL",
   "dUTING WHALEbQUARE A OVER MiARUiMiNPEAiPAATOiRUHUAiUhBAARERUjRiEETAiIRUiORUTOiQiUSSYERU",
   "hC OVER KGiALjPiCiDiMj CUBEDkSQUAREDiOjRPORATIONiUPhDAjASUiBiESIiJiLiMj CUBEDkSQUAREDiORU",
   "hEEKAAiRA NAME HEISEIqMEIZIqREIWAqSYOUWAqTAISYOUjGiSUKUUDOiVhFMiOOTjUR CORNERShGALjNMAjRONiB",
   "iHZiIGAjNIIjRUDAAiPAiURAMUnTONiYhHAjITUiEKUTAARUjRUTUiGiIRAGANA HOKAiONjONkRUiPjAiUARADDOjIITO",
   "jRANiZhIMAGE OFp OR EQUAL TOtNOT EQUAL TOiNjINGUjTIiUhK OHMiAjIRIjRATTOkORIIiBiCALiEESUiGiHZ",
   "iIROlGURAMUlMEETORUlWATTOiKiLiMj CAPITALlUBEDkSQUAREDiOOPOjRUNAiPAiTiUROONEkUZEIROiViWiYURII",
   "hLEFT OPEN BOX OPERATORiMiNiOGjZENGEiXhM CUBEDjOHMkVER Sp SQUAREDjSQUAREDiAjHHAjIKUROkRUjNSYON",
   "jRUKUiBj SMALLiEETORUjGAlTONiGiHZiIKURONjLjRIlBAARUiLiMj CUBEDkSQUAREDiOLiPAiSiU AkFkGkLkMkSkV",
   "kWiVj MEGAiWj MEGAhNAjNOiFiMiOTTOiSiViWhONSUiOMUiRIGINAL OFs OR EQUAL TOwNOT EQUAL TOiVhPA",
   "j AMPSjASENTOkTUiCiEEZIjNIHIkSUjSOiFiHiIASUTORUjKOkURUiMiOINTOjNDOjSITION INDICATORiPMiRiSiViW",
   "hRADk OVER Sr SQUAREDiEMUjNTOGENiIGHT OPEN BOX OPERATORjRAjTTORUiOOTiUPIIjUBURUhSAIKURUjNTIIMU",
   "iENTIlOiIRINGUiRiVhTARGETiHZiONhUONhV OVER MhWATTOiBiITH BOTTOM HALF BLACKmCONTOURED OUTLINE",
   "mDIAGONAL CROSSHATCH FILLmHORIZONTAL FILLmLEFT HALF BLACKnOWER LEFT DIAGONAL HALF BLACK",
   "sRIGHT DIAGONAL HALF BLACKmORTHOGONAL CROSSHATCH FILLmRIGHT HALF BLACKmTOP HALF BLACK",
   "mUPPER LEFT DIAGONAL HALF BLACKxTO LOWER RIGHT FILLsRIGHT DIAGONAL HALF BLACK",
   "yTO LOWER LEFT FILLmVERTICAL FILLhYAADOkRUiUANgD ASTERISKiCJK UNIFIED IDEOGRAPH-4E00zi9zh2D",
   "zh8CzhA4zf518Dzg21Dzh4Dzh72zg3CCzhF3zg408zh39zg5B6zg8F0zg91Azh29zgB57zgDE6zgF8Czf624Bzh53zh95",
   "zg307zh55zg599zhB0zg620zg708zi9zgE80zgF14zf7121zg51Fzh33zg981zgA7AzgD42zf89E3zgCA9zgD70zf904A",
   "zg14DjLjOOLiDOT OPERATORiEIGHT KiFALLING DIAGONAL SLASHjIVE POINT ONEjOUR DOT PUNCTUATIONnK",
   "jREEiHCjDRjI-RESjViIDiKATAKANA DErKOKOrSAjEYiLATIN CAPITAL LETTER AzeBzeCzeDzeEzeFzeGzeHzeIzeJ",
   "zeKzeLzeMzeNzeOzePzeQzeRzeSzeTzeUzeVzeWzeXzeYzeZoSMALL LETTER DjOGICAL ANDqORkSSLESSiMINUSjV",
   "iNEWjGiOKjNE HUNDRED TWENTY PiPLUSjPViRISING DIAGONAL SLASHiSALTIREjDjECOND SCREEN",
   "kVEN POINT ONEjHVjIXTY PjMALL CIRCLEjOSjQUAREjSiTHREE DjIMESjWENTY-TWO POINT TWOkO KiUHD",
   "jP WITH EXCLAMATION MARKiVODjSiWCeT BLACK RIGHTWARDS ARROWdIDbS2c3cAbTcADIUMdFF OF AESCULAPIUS",
   "jHERMESdMPED ENVELOPEdNDING PERSONdR AND CRESCENTfEQUALSfOF DAVIDgPERATORfWITH LEFT HALF BLACK",
   "kRIGHT HALF BLACKeT OF GUARDED AREAjHEADINGjPROTECTED AREAjSELECTED AREAkTRINGjTEXTdTION",
   "eUE OF LIBERTYcEAM LOCOMOTIVEfING BOWLdNOGRAPHIC FULL STOPdTHOSCOPEcICK FIGUREm LEANING LEFT",
   "vRIGHTnWITH ARMS RAISEDsDRESScOCK CHARTdPWATCHcRAIGHT RULERiNESSeWBERRY",
   "dESS OUTLINED WHITE STARdICTLY EQUIVALENT TOeNG TERMINATORcScUDIO MICROPHONEdFFED FLATBREADdPA",
   "cXbUBdSCRIPT EIGHTlQUALS SIGNkFIVElOURkLEFT PARENTHESISkMINUSkNINEkONEkPLUS SIGN",
   "kRIGHT PARENTHESISkSEVENlIXkTHREElWOkZEROeET ABOVE RIGHTWARDS ARROWnSUBSETpPERSEThOF",
   "j ABOVE ALMOST EQUAL TOqEQUALS SIGNqNOT EQUAL TOqTILDE OPERATORkOR EQUAL TOv WITH DOT ABOVE",
   "kWITH NOT EQUAL TOhWITH DOTmMULTIPLICATION SIGN BELOWmPLUS SIGN BELOWeTITUTEcCCEEDS",
   "i ABOVE ALMOST EQUAL TOpEQUALS SIGNpNOT ALMOST EQUAL TOtEQUAL TOpSINGLE-LINE EQUALS SIGN",
   "zcNOT EQUAL TOjBUT NOT EQUIVALENT TOjOR EQUAL TOpIVALENT TOjUNDER RELATIONcMMATION BOTTOMkTOP",
   "kWITH INTEGRALcNd BEHIND CLOUDeWITH FACEdDANESE AVAGRAHAkCONSONANT SIGN PAMINGKALzcNYAKRAzeIKU",
   "zcSANGAN MAzjWAkDIGIT EIGHTqFIVErOURqNINEqONEqSEVENrIXqTHREErWOqZEROkLETTER AsErBAsHArCArDArE",
   "sUrFAsINAL KxMrGArHArIrJArKAsHArLAsEUrMArNAsGAsYArOrPArQArRAsEUrSAsYArTArUrVArWArXArYArZA",
   "kPUNCTUATION BINDU BA SATANGAzdCAKRAzdDA SATANGAzdKA SATANGAzdLEU SATANGAzdPANGLONGzeURNAMA",
   "zdSURYAkSIGN PAMAAEHrNGLAYARtWISADsYECEKpVIRAMAkVOWEL SIGN PAMEPETxNAELAENGyEULEUNGyGHULU",
   "yOLONGyYUKUdFLOWERdRISEh OVER MOUNTAINSdSET OVER BUILDINGScPERHEROfSCRIPT EIGHTnQUALS SIGN",
   "mFIVEnOURmLATIN SMALL LETTER IzgNnEFT PARENTHESISmMINUSmNINEmONEmPLUS SIGNmRIGHT PARENTHESIS",
   "mSEVENnIXmTHREEnWOmZEROgET ABOVE LEFTWARDS ARROWpSUBSETrPERSET",
   "jBESIDE AND JOINED BY DASH WITH SUBSETqSUBSETjOFl ABOVE ALMOST EQUAL TOsEQUALS SIGN",
   "sNOT EQUAL TOsTILDE OPERATORmOR EQUAL TOx WITH DOT ABOVEmWITH NOT EQUAL TOjPRECEDING SOLIDUS",
   "jWITH DOToMULTIPLICATION SIGN BELOWoPLUS SIGN BELOWfVILLAINcRFACE INTEGRALeERcSHI",
   "dPENSION RAILWAYbWANdSH AMPERSAND ORNAMENTcIMMERcUNG DASHbYLOTI NAGRI LETTER AuBHOvOuCHOvO",
   "uDDHOwOvHOvOuEuGHOvOuHOuIuJHOvOuKHOvOuLOuMOuNOuOuPHOvOuROvROuSOuTHOvOvTHOwOuUnPOETRY MARK-1z2",
   "z3z4nSIGN ALTERNATE HASANTAtNUSVARAsDVISVARAsHASANTAnVOWEL SIGN AyEyIyOOyU",
   "cMBOL FOR ACKNOWLEDGElBACKSPACEmELLlCANCELnRRIAGE RETURNlDATA LINK ESCAPEmELETEr FORM TWO",
   "nVICE CONTROL FOURzbONEzbTHREEzcWOlEND OF MEDIUMsTEXTtRANSMISSIONzf BLOCKnQUIRYmSCAPE",
   "lFILE SEPARATORmORM FEEDlGROUP SEPARATORlHORIZONTAL TABULATIONlLINE FEEDlMARKS CHAPTER",
   "lNEGATIVE ACKNOWLEDGEnWLINEmULLlRECORD SEPARATORlSAMARITAN SOURCEmHIFT INrOUTmPACE",
   "mTART OF HEADINGuTEXTmUBSTITUTEv FORM TWOmYNCHRONOUS IDLElTYPE A ELECTRONICSlUNIT SEPARATOR",
   "lVERTICAL TABULATIONdMETRYcNdAGOGUEdCHRONOUS IDLEcRIAC ABBREVIATION MARKhBARREKH",
   "hCOLON SKEWED LEFTuRIGHTjNTRACTIONhDOTTED ZLAMA ANGULARuHORIZONTALhEND OF PARAGRAPHiSASA ABOVE",
   "nBELOWhFEMININE DOThHARKLEAN ASTERISCUSqMETOBELUSqOBELUSiBASA ABOVEnBELOWm-ESASA DOTTED",
   "iORIZONTAL COLONhLETTER ALAPHoBETHoDALATHpOTLESS DALATH RISHoEoFINAL SEMKATHoGAMALt GARSHUNI",
   "oHEqTHoKAPHoLAMADHoMALAYALAM BHAyJAyLLAzbLAyNGAzNAzbNAzYAyRAySSAyTTApIMoNUNoPEqRSIAN BHETH",
   "wDHALATHwGHAMALoQAPHoREVERSED PEpISHoSADHEpEMKATHpHINpOGDIAN FEwKHAPHwZHAINpUPERSCRIPT ALAPH",
   "oTAWpETHs GARSHUNIoWAWoYUDHs HEoZAINhMUSIChOBLIQUE LINE ABOVEuBELOWhPTHAHA ABOVEoBELOWoDOTTED",
   "hQUSHSHAYAhRBASA ABOVEnBELOWiUKKAKHAiWAHAhSUBLINEAR COLONw SKEWED LEFTzfRIGHTrFULL STOP",
   "jPRALINEAR COLONy SKEWED LEFTtFULL STOPhTHREE DOTS ABOVEsBELOWiWO VERTICAL DOTS ABOVEzBELOW",
   "hZQAPHA ABOVEoBELOWoDOTTEDeNGEaT-REXcSHIRTbABdLE TENNIS PADDLE AND BALLcCOcG AMPERSAND",
   "fPOSTROPHEfSTERISKeCIRCUMFLEX ACCENTfOLONgMMAiERCIAL ATeDIGIT EIGHTkFIVElOURkNINEkONEkSEVENlIX",
   "kTHREElWOkZEROfOLLAR SIGNeEQUALS SIGNfXCLAMATION MARKeFULL STOPeGRAVE ACCENTgEATER-THAN SIGN",
   "eHYPHEN-MINUSeLATIN CAPITAL LETTER AzBzCzDzEzFzGzHzIzJzKzLzMzNzOzPzQzRzSzTzUzVzWzXzYzZ",
   "kSMALL LETTER AxBxCxDxExFxGxHxIxJxKxLxMxNxOxPxQxRxSxTxUxVxWxXxYxZfEFT CURLY BRACKET",
   "jPARENTHESISjSQUARE BRACKETgSS-THAN SIGNfOW LINEeNUMBER SIGNePERCENT SIGNfLUS SIGN",
   "eQUESTION MARKgOTATION MARKeREVERSE SOLIDUSfIGHT CURLY BRACKETkPARENTHESISkSQUARE BRACKET",
   "eSEMICOLONfOLIDUSfPACEeTILDEeVERTICAL LINEdALOG LETTER AqRCHAIC RApBApDApGApHApIpKApLApMApNA",
   "qGApPApRApSApTApUpWApYAiSIGN PAMUDPODnVIRAMAiVOWEL SIGN ItUdBANWA LETTER AqBAqDAqGAqIqKAqLAqMA",
   "qNArGAqPAqSAqTAqUqWAqYAjVOWEL SIGN IuUcI LE LETTER ApIpUEoEpEpHoFAoHAoIoKApHAoLAoMAoNApGAoOpO",
   "oPApHAoQAoSAoTApHApONE-2t3t4t5t6pSAqHAoUpEoVAoXAoYAeTHAM COMBINING CRYPTOGRAMMIC DOT",
   "lNSONANT SIGN BAyFINAL NGAyHIGH RATHA OR LOW PAyLA TANG LAIzOW PAyMAzEDIAL LAzgRAySA",
   "jHORA DIGIT EIGHTuFIVEvOURuNINEuONEuSEVENvIXuTHREEvWOuZEROjLETTER AqBAqDAqEEqGREAT SAqHIGH CA",
   "wHAvFAvHAvKAwHAwXAvPAwHAvRATHAvSAwHAwSAvTAwHAvYAqIrIqLAsErLArOW CAvHAuFAuHAuKAvHAvXAuPAvHA",
   "uRATHAuSAuTAvHAuYArUEqMAqNArGArYAqOOqRAsNAsTArUEqUrUqWAjSIGN CAANGoDOKMAIoHANGpOYoKAANsKUUpEOW",
   "pHUEN TONE-3z4z5t-LUE KARANoMAI KANGw LAIsSAMsYAMOKoRA HAAMpEVERSED ROTATED RANAoSAKOTqTKAAN",
   "vKUUqWANoTONE-1t2oWIANGtWAAKjTHAM DIGIT EIGHTuFIVEvOURuNINEuONEuSEVENvIXuTHREEvWOuZERO",
   "jVOWEL SIGN AvAvEvIuEuIvIuMAI SATuOvA ABOVExBELOWvOvYuTALL AAvHAM AIuUvEvUwE",
   "eVIET LETTER HIGH BOvCHOwOvDOvFOvGOvHOvKHHOxOwOvLOvMOvNGOwOwYOvOvPHOwOvROvSOvTHOwOvVOvYO",
   "qLOW BOuCHOvOuDOuFOuGOuHOuKHHOwOvOuLOuMOuNGOvOvYOuOuPHOvOuROuSOuTHOvOuVOuYOjMAI KANGoHIT",
   "jSYMBOL HO HOIqKOI KOIsNqNUENGqSAMjTONE MAI EKsNUENGsSONGsTHOjVOWEL AAqMqNqUEqYpEpIqApOpUqAqE",
   "rAcKEOUT BOXdRI ABBREVIATION SIGNgDIGIT EIGHTmFIVEnOURmNINEmONEmSEVENnIXmTHREEnWOmZERO",
   "gLETTER AoAoIoRCHAIC KHAoUnBAoHAnCAoHAnDAoDApHAoHAnEnGAoHAnHAnIoInJAoHAnKAoHAnLAnMAnNAoGAoNA",
   "oYAnOnPAoHAnRAoRAnSAoHAnTAoHAoTApHAnUoUnVAnYAgSIGN ANUSVARAlNUKTAlVIRAMAnSARGAgVOWEL SIGN AAsI",
   "sUrErIsIrOrUsUcLLY MARK FIVElONEcMALEdIL AND ODD SIGNhS ABOVE SIGNhU LENGTH MARKgCREDIT SIGN",
   "hURRENT SIGNgDAY SIGNhEBIT SIGNhIGIT EIGHTmFIVEnOURmNINEmONEmSEVENnIXmTHREEnWOmZERO",
   "hRY CULTIVATION SIGNgFRACTION DOWNSCALING FACTOR KIIZHpONE EIGHTHyIETHtFIFTHuORTIETHtHALF-1y2",
   "tONE-HUNDRED-AND-SIXTIETHtQUARTERtSIXTEENTH-1ze2xY-FOURTHtTENTHuHIRTY-SECOND",
   "vREE-HUNDRED-AND-TWENTIETHuWENTIETHpTHREE EIGHTIETHSvQUARTERSvSIXTEENTHSzY-FOURTHSvTWENTIETHS",
   "gIN POSSESSION SIGNgLAND SIGNhETTER AoAoIoUnCAnEoEnHAnIoInJAnKAnLAoLApLAnMAnNAoGAoNApNAoYAnOoO",
   "nPAnRAoRAnSAoHAoSAnTAoTAnUoUnVAnYAgMONTH SIGNgNUMBER ONE HUNDREDrTHOUSANDnSIGNnTENgOM",
   "gPUNCTUATION END OF TEXTgRUPEE SIGNgSALT PAN SIGNhIGN AAZHAAKKUmNUSVARAlCEVITUlKAACUmURUNInZHI",
   "lMUKKURUNInTHALIYAnUVUZHAKKUlNELlPAARAMnNAMnTHAKKUmONlUZHAKKUlVAKAIYARAAnRAAKANmELImIRAMA",
   "nSARGAhPENT SIGNhTARTING FROM SIGNgTOTAL SIGNhRADITIONAL CREDIT SIGNsNUMBER SIGNgVOWEL SIGN AA",
   "sIsUrEsErIsIrOsOrUsUgWET CULTIVATION SIGNgYEAR SIGNcNABATA TREEdGERINEeSA DIGIT EIGHTnFIVEoOUR",
   "nNINEnONEnSEVENoIXnTHREEoWOnZEROhLETTER ACpQpWCqQqXqZpXpZoBAoCApHAoDApHAoECpQpXpZoFApINAL NG",
   "oGApHAoHApTAqTAoICpQpXpZoKApHAoLApONG UEXoMApCpQpXpZoNApGApHApYAoOCpQpXpZoPApHAoRAoSApHA",
   "qORT AWXuUEZoTApHApSAoUCpECqQqXqZpICqQqUCrQrXrZqXqZpQpXpZoVCpQpXpZoWAoXAoYAoZA",
   "eUT COMPONENT-001t2t3t4t5t6t7t8t9s10t1t2t3t4t5t6t7t8t9s20t1t2t3t4t5t6t7t8t9s30t1t2t3t4t5t6t7t8",
   "t9s40t1t2t3t4t5t6t7t8t9s50t1t2t3t4t5t6t7t8t9s60t1t2t3t4t5t6t7t8t9s70t1t2t3t4t5t6t7t8t9s80t1t2",
   "t3t4t5t6t7t8t9s90t1t2t3t4t5t6t7t8t9r100t1t2t3t4t5t6t7t8t9s10t1t2t3t4t5t6t7t8t9s20t1t2t3t4t5t6",
   "t7t8t9s30t1t2t3t4t5t6t7t8t9s40t1t2t3t4t5t6t7t8t9s50t1t2t3t4t5t6t7t8t9s60t1t2t3t4t5t6t7t8t9s70",
   "t1t2t3t4t5t6t7t8t9s80t1t2t3t4t5t6t7t8t9s90t1t2t3t4t5t6t7t8t9r200t1t2t3t4t5t6t7t8t9s10t1t2t3t4",
   "t5t6t7t8t9s20t1t2t3t4t5t6t7t8t9s30t1t2t3t4t5t6t7t8t9s40t1t2t3t4t5t6t7t8t9s50t1t2t3t4t5t6t7t8t9",
   "s60t1t2t3t4t5t6t7t8t9s70t1t2t3t4t5t6t7t8t9s80t1t2t3t4t5t6t7t8t9s90t1t2t3t4t5t6t7t8t9r300t1t2t3",
   "t4t5t6t7t8t9s10t1t2t3t4t5t6t7t8t9s20t1t2t3t4t5t6t7t8t9s30t1t2t3t4t5t6t7t8t9s40t1t2t3t4t5t6t7t8",
   "t9s50t1t2t3t4t5t6t7t8t9s60t1t2t3t4t5t6t7t8t9s70t1t2t3t4t5t6t7t8t9s80t1t2t3t4t5t6t7t8t9s90t1t2",
   "t3t4t5t6t7t8t9r400t1t2t3t4t5t6t7t8t9s10t1t2t3t4t5t6t7t8t9s20t1t2t3t4t5t6t7t8t9s30t1t2t3t4t5t6",
   "t7t8t9s40t1t2t3t4t5t6t7t8t9s50t1t2t3t4t5t6t7t8t9s60t1t2t3t4t5t6t7t8t9s70t1t2t3t4t5t6t7t8t9s80",
   "t1t2t3t4t5t6t7t8t9s90t1t2t3t4t5t6t7t8t9r500t1t2t3t4t5t6t7t8t9s10t1t2t3t4t5t6t7t8t9s20t1t2t3t4",
   "t5t6t7t8t9s30t1t2t3t4t5t6t7t8t9s40t1t2t3t4t5t6t7t8t9s50t1t2t3t4t5t6t7t8t9s60t1t2t3t4t5t6t7t8t9",
   "s70t1t2t3t4t5t6t7t8t9s80t1t2t3t4t5t6t7t8t9s90t1t2t3t4t5t6t7t8t9r600t1t2t3t4t5t6t7t8t9s10t1t2t3",
   "t4t5t6t7t8t9s20t1t2t3t4t5t6t7t8t9s30t1t2t3t4t5t6t7t8t9s40t1t2t3t4t5t6t7t8t9s50t1t2t3t4t5t6t7t8",
   "t9s60t1t2t3t4t5t6t7t8t9s70t1t2t3t4t5t6t7t8t9s80t1t2t3t4t5t6t7t8t9s90t1t2t3t4t5t6t7t8t9r700t1t2",
   "t3t4t5t6t7t8t9s10t1t2t3t4t5t6t7t8t9s20t1t2t3t4t5t6t7t8t9s30t1t2t3t4t5t6t7t8t9s40t1t2t3t4t5t6t7",
   "t8t9s50t1t2t3t4t5t6t7t8t9s60t1t2t3t4t5t6t7t8hITERATION MARKcPE CARTRIDGEfDRIVEcURUScXI",
   "bEACUP WITHOUT HANDLEdPOTdR-OFF CALENDAReDROP-BARBED RIGHTWARDS ARROWjSPOKED ASTERISKcDDY BEAR",
   "cLEPHONE LOCATION SIGNkON TOP OF MODEMkRECEIVERs WITH PAGEnORDERkSIGNeSCOPEeVISION",
   "dUGU AI LENGTH MARKhDIGIT EIGHTnFIVEoOURnNINEnONEnSEVENoIXnTHREEoWOnZERO",
   "hFRACTION DIGIT ONE FOR EVEN POWERS OF FOURzfODD POWERS OF FOURwTHREE FOR EVEN POWERS OF FOUR",
   "zhODD POWERS OF FOURxWO FOR EVEN POWERS OF FOURzfODD POWERS OF FOUR",
   "wZERO FOR ODD POWERS OF FOURhLENGTH MARKjTTER ApApIpUoBApHAoCApHAoDApDAqHApHApZAoEpEoGApHAoHA",
   "oIpIoJApHAoKApHAoLApLAqLAoMAoNAqKAARA POLLUpGApNApYAoOpOoPApHAoRApRAqRAoSApHApSAoTApHApSApTA",
   "qHAoUpUoVApOCALIC LxLwRxRoYAhSIGN ANUSVARAnVAGRAHAmCANDRABINDUnOMBINING ANUSVARA ABOVE",
   "wCANDRABINDU ABOVEmNUKTAmSIDDHAMmTUUMUmVIRAMAoSARGAhVOWEL SIGN AAtItUsEtEsItIsOtOsUtU",
   "sVOCALIC LzcLzbRzcRcNGE SIGNdNIS RACQUET AND BALLdTcST TUBEcTRAGRAM FOR ACCUMULATIONpDVANCE",
   "pGGRAVATIONpSCENToBARRIERpOLD RESOLUTIONpRANCHING OUToCENTREpHANGEpLOSED MOUTHtNESSsURE",
   "pOMPLETIONtIANCEqNSTANCYrTACTsENTIONsRARIETYoDARKENINGpECISIVENESSqFECTIVENESS OR DISTORTION",
   "qPARTUREpIFFICULTIESqMINISHMENTrMINGqVERGENCEpOUBTpUTIESoEASEpMBELLISHMENTpNCOUNTERSqDEAVOUR",
   "qLARGEMENTpTERNITYpXHAUSTIONoFAILUREpLIGHTpOLLOWINGqSTERINGpULL CIRCLEsNESSoGATHERINGx IN",
   "pOING TO MEETpREATNESSpUARDEDNESSoHARDNESSpOLDING BACKoINCREASEqNERoJOYoKEEPING SMALLpINSHIP",
   "oLABOURINGqW OR MODELpEGIONoMASSINGpEASUREpIREDoON THE VERGEpPPOSITIONoPACKINGqTTERN",
   "pENETRATIONpURITYoREACHqLEASEqSIDENCEsSTANCErPONSEpITUALoSEVERANCEpINKINGpTOPPAGErVEqRENGTH",
   "oUNITYoVASTNESS OR WASTINGoWAITINGqTCHoYOUTHFULNESSbHAANA AABAAFILIiBAFILIhEBEFILIiEBEEFILI",
   "iYBEYFILIhIBIFILIhLETTER AINUpLIFUoBAAoCHAVIYANIoDAADHUqVIYANIpHAALUoFAAFUoGAAFUpHAINU",
   "pNAVIYANIoHAApHAAoJAVIYANIoKAAFUpHAAoLAAMUpHAVIYANIoMEEMUoNAApOONUoPAVIYANIoQAAFUoRAAoSAADHU",
   "pEENUpHAVIYANIqEENUoTAVIYANIpHAAsLUpOpTAAoVAAVUoWAAVUoYAAoZAAqVIYANIpOhOABOAFILIiBOFILI",
   "iOBOOFILIhSUKUNhUBUFILIdI CHARACTER ANGKHANKHUpBO BAIMAIpCHO CHANxGvINGvOEpDO CHADAsDEKpFO FA",
   "uNrNGMANpHO HIPsNOKHUKpKHO KHAIvONvUATvWAItRAKHANGsMUTqO KAIpLAKKHANGYAOqO CHULAsLINGqU",
   "pMAI CHATTAWAtEKtHAN-AKATtTHOuRIsTAIKHUsYAMOKqO MApNGO NGUqIKHAHITqO NENtUpO ANGpPAIYANNOI",
   "qHINTHUrO PHANvUNGtSAMPHAOqO PLApRO RUAqUpSARA AvAvEvI MAIMALAIzcUANvMuEuIvIuOuUvEwEvUqO RUSI",
   "sSALAtOtUApTHANTHAKHATrO NANGMONTHOtPHUTHAOtTHAHANwNvONGvUNGqO PATAKsTAOpWO WAENpYAMAKKAN",
   "qO YAKtINGgURRENCY SYMBOL BAHTfDIGIT EIGHTlFIVEmOURlNINElONElSEVENmIXlTHREEmWOlZERO",
   "cERE DOES NOT EXISTgEXISTSfFOREeMODYNAMICgMETERcIN GREEK CROSSfSALTIREgPACEeKING FACE",
   "dRD PLACE MEDALcONG SANDALdUGHT BALLOONcREE BUTTON MOUSEgCONSECUTIVE EQUALS SIGNS",
   "gDIMENSIONAL ANGLEhOT PUNCTUATIONgLEFTWARDS ARROWShINES CONVERGING LEFTxRIGHT",
   "gNETWORKED COMPUTERSgPOINTED BLACK STARgRAYS ABOVElBELOWlLEFTlRIGHThIGHTWARDS ARROWS",
   "gSPEECH BUBBLESf-D BOTTOM-LIGHTED RIGHTWARDS ARROWHEAD",
   "iLEFT-LIGHTED DOWNWARDS EQUILATERAL ARROWHEADiRIGHT-LIGHTED UPWARDS EQUILATERAL ARROWHEAD",
   "iTOP-LIGHTED LEFTWARDS EQUILATERAL ARROWHEADuRIGHTWARDS ARROWHEADzgEQUILATERAL ARROWHEAD",
   "gEM DASHgPER-EM SPACEcUMBS DOWN SIGNhUP SIGNdNDER CLOUD AND RAINhSTORM",
   "bIBETAN ASTROLOGICAL SIGN -KHYUD PAzbSDONG TSHUGSzcGRA GCAN -CHAR RTAGS",
   "iCANTILLATION SIGN CANG TE-UzbHEAVY BEATzbLIGHT BEATzbSBUB -CHALiDIGIT EIGHToFIVEpOUR",
   "oHALF EIGHTtFIVEuOURtNINEtONEtSEVENuIXtTHREEuWOtZEROoNINEoONEoSEVENpIXoTHREEpWOoZEROiKU RU KHA",
   "r BZHI MIG CANiLETTER -ApApBAqHApCAqHApDAqDArHAqHAqZArHApFIXED-FORM RApGAqHApHApJApKAqHAqKA",
   "qSSApLApMApNAqGAqNAqYApPAqHApRAqRApSAqHAqSApTAqHAqSArHAqTArHApWApYApZAqHA",
   "jOGOTYPE SIGN CHAD RTAGSwLHAG RTAGSiMARK ANG KHANG GYASzONnBKA- SHOG GI MGO RGYANxYIG MGO",
   "oSDUS RTAGSpKA- SHOG GI MGO RGYANqUR YIG MGOnCARET -DZUD RTAGS BZHI MIG CANzgME LONG CAN",
   "tYIG MGO PHUR SHAD MAoHE MGOoLOSING BRDA RNYING YIG MGO SGAB MAvYIG MGO SGAB MA",
   "nDELIMITER TSHEG BSTARnGTER TSHEGsYIG MGO -UM GTER TSHEG MAzfRNAM BCAD MAzbTRUNCATED A",
   "oUG RTAGS GYASzONnHALANTAnINITIAL BRDA RNYING YIG MGO MDUN MAvYIG MGO MDUN MA",
   "pTERSYLLABIC TSHEGnLEADING MCHAN RTAGSnMNYAM YIG GI MGO RGYANnNGAS BZUNG NYI ZLAySGOR RTAGS",
   "oYIS SHADsTSHEGx SHADnPALUTAnRGYA GRAM SHADoIN CHEN SPUNGS SHADnSBRUL SHADoHAD",
   "nTRAILING MCHAN RTAGSoSA -PHRUpHEG SHADnYIG MGO TSHEG SHAD MAiSIGN GRU CAN RGYINGSrMED RGYINGS",
   "nINVERTED MCHU CANnLCE TSA CANpI RTAGSnMAR TSHESoCHU CANnNYI ZLA NAA DAnRDEL DKAR GCIGyNYIS",
   "ySUMxRDEL NAGsNAG GCIGxNYISxSUMwRDEL DKARoJES SU NGA ROoNAM BCADnSNA LDANnYANG RTAGSpR TSHES",
   "jUBJOINED LETTER -AzAzBAzbHAzCAzbHAzDAzbDAzcHAzbHAzbZAzcHAzFIXED-FORM RAzlWAzlYAzGAzbHAzHAzJA",
   "zKAzbHAzbSSAzLAzMAzNAzbGAzbNAzbYAzPAzbHAzRAzSAzbHAzbSAzTAzbHAzbSAzcHAzbTAzcHAzWAzYAzZAzbHA",
   "sSIGN INVERTED MCHU CANxLCE TSA CANxMCHU CANjYLLABLE OMkMBOL DRIL BUpNOR BUv BZHI -KHYIL",
   "wGSUM -KHYILwNYIS -KHYILpPADMA GDANqHUR PApRDO RJEw RGYA GRAMiVOWEL SIGN AAtEuEtIuItOuO",
   "tREVERSED IzeItUuUtVOCALIC LzdLzcRzdRcCKETcE OVER INFINITYcFINAGH CONSONANT JOINER",
   "jLETTER AHAGGAR YAZHrYER YAGHqBERBER ACADEMY YAHziJqTAWELLEMET YAZrUAREG YAGHzbNzHzKzbHzNGzQ",
   "zZHqYAsAsBtHsCHsDtDuHtHsFsGtHuHsHtHsJsKtHuHsLsMsNsPsQsRtRsStHtSsTtHtTsVsWsYsZtHtZrEsYrIrOrU",
   "jMODIFIER LETTER LABIALIZATION MARKjSEPARATOR MARKcGERf FACEdHT TRIFOLIATE SNOWFLAKEcLDE",
   "f OPERATORo ABOVE LEFTWARDS ARROWvRIGHTWARDS ARROWpWITH DOT ABOVEuRISING DOTSgWITH DOT ABOVE",
   "pBELOWlRING ABOVEcMER CLOCKeS WITH LEFT HALF BLACKlRIGHT HALF BLACKcNY",
   "e TWO DOTS OVER ONE DOT PUNCTUATIONcRED FACEdHUTA ABBREVIATION SIGNjNJIiDIGIT EIGHToFIVEpOUR",
   "oNINEoONEoSEVENpIXoTHREEpWOoZEROiGVANGiLETTER AqAqIqUpBAqHApCAqHApDAqDArHAqHApEpGAqHApHApIqI",
   "pJAqHApKAqHApLApMApNAqGAqNAqYApOpPAqHApRApSAqHAqSApTAqHAqTArHApUqUpVAqOCALIC LyLxRyRpYAiOM",
   "iSIGN ANUSVARAoVAGRAHAnCANDRABINDUnNUKTAnVIRAMApSARGAiVOWEL SIGN AAuIuUtEtIuItOtSHORT EzOtUuU",
   "tVOCALIC LzdLzcRzdRdONIAN SIGN CAPITAL EToETbOILETcKYO TOWERcMATOcNGUEcOLBOXdTHfBRUSH",
   "cP ARC ANTICLOCKWISE ARROWzc WITH PLUSiCLOCKWISE ARROW WITH MINUSeCURLY BRACKET",
   "eHALF BLACK CIRCLEjINTEGRALjLEFT PARENTHESISjRIGHT PARENTHESISjSECTION SIGNgTeLEFT CORNERkROP",
   "jHALF BRACKETePARENTHESISeRIGHT CORNERlROPkHALF BRACKETeSQUARE BRACKETeTORTOISE SHELL BRACKET",
   "eWITH UPWARDS ARROW ABOVEcRTOISE SHELL BRACKETED CJK UNIFIED IDEOGRAPH-4E09zy8Czw52DDzxB89",
   "zw6253zx557zx72Czw70B9zx6D7zLATIN CAPITAL LETTER ScTAL RUNOUTdO LETTER AnEmBAnREATHY AEuEvOuI",
   "vUmCHAmDAmEnOmGAmHAmInUmJAmKAmLAmMAmNAnGAmOmPAmRAmSAmTAmUmWAmYAfSIGN RISING TONEbRACKBALLeTOR",
   "dDE MARK SIGNdINdMe CARdNSPLUTOfVERSAL INTERSECTIONcIANGLE WITH DOT ABOVEoROUNDED CORNERS",
   "oSERIFS AT BOTTOMoUNDERBARi-HEADED RIGHTWARDS ARROWgULAR BULLETlFLAG ON POSTlRULERdCOLON",
   "dDENT EMBLEMdGRAM FOR EARTHmFIREmHEAVENmLAKEmMOUNTAINmTHUNDERmWATERnINDdPLE COLON OPERATOR",
   "hDAGGERhHORIZONTAL BAR WITH DOUBLE VERTICAL STROKEzcTRIPLE VERTICAL STROKEhINTEGRAL",
   "hNESTED GREATER-THANoLESS-THANhPLUSiRIMEhSOLIDUS BINARY RELATIONhTILDE",
   "hVERTICAL BAR BINARY RELATIONuDELIMITERuRIGHT TURNSTILEuWITH HORIZONTAL STROKEcOLLfEYBUSdPHY",
   "eICAL DRINKjFISHcUEe LIGHT MOON ARTAdMPETbUGRIK SIGNcLIPcMBLER GLASScRKEYeISH LIRA SIGN",
   "dNED AMPERSANDiNGLEhBLACK PENTAGONnSHOGI PIECEhCAPITAL FiOMMAhDAGGERiIGIT THREEoWO",
   "hGREEK SMALL LETTER IOTAhNORTH EAST POINTING LEAFnWEST POINTING LEAFjT SIGNhOK HAND SIGN",
   "hSANS-SERIF CAPITAL GzbLzbYiEMICOLONiMALL FiOUTH EAST POINTING LEAFnWEST POINTING LEAF",
   "hWHITE SHOGI PIECEdTLEbWELVE POINTED BLACK STARcISTED RIGHTWARDS ARROWS",
   "cO ASTERISKS ALIGNED VERTICALLYeBUTTON MOUSEeCONSECUTIVE EQUALS SIGNSeDOT LEADERiPUNCTUATION",
   "hS OVER ONE DOT PUNCTUATIONeHEARTSeINTERSECTING LOGICAL ANDzOReJOINED SQUARES",
   "eLOGICAL AND OPERATORmOR OPERATOReMEN HOLDING HANDSeSPEECH BUBBLESeWOMEN HOLDING HANDS",
   "d-EM DASHaUGARITIC LETTER AINrLPAqBETAqDELTArHALqGAMLArHAINqHOsTAqIqKAFrHAqLAMDAqMEMqNUNqPU",
   "qQOPAqRASHAqSADEsMKArHINrSUqTETrHANNArOqUqWOqYODqZETArUjWORD DIVIDERbMBRELLAi ON GROUND",
   "jWITH RAIN DROPSbNAMUSED FACEcCERTAINTY SIGNcDERTIEdO SYMBOLcICORN FACEdON",
   "f ABOVE BAR ABOVE INTERSECTIONmINTERSECTIONgBESIDE AND JOINED WITH UNIONgWITH LOGICAL OR",
   "lMINUS SIGNlOVERBARdT SEPARATOReED SYMBOLdVERSAL RECYCLING SYMBOLcMARRIED PARTNERSHIP SYMBOL",
   "bP ARROW THROUGH CIRCLEiHEADm BETWEEN TWO HORIZONTAL BARSnIN A RECTANGLE BOX",
   "dBARB LEFT DOWN BARB LEFT HARPOONxRIGHT HARPOONiRIGHT DOWN BARB LEFT HARPOONyRIGHT HARPOON",
   "dDOWN ARROWn WITH BASEiBLACK ARROWiDOUBLE ARROWiSANS-SERIF ARROWiTRIANGLE-HEADED ARROW",
   "iWHITE ARROWdFISH TAILdRIGHT DIAGONAL ELLIPSISdTACKh WITH CIRCLE ABOVEc-POINTING AIRPLANE",
   "mMILITARY AIRPLANEmRED TRIANGLEmSMALL AIRPLANEsRED TRIANGLEmTRIANGLE WITH LEFT HALF BLACK",
   "zbRIGHT HALF BLACKcPER AND LEFT AND LOWER TRIANGULAR THREE QUARTERS BLOCK",
   "lOWER ONE EIGHTH BLOCKqTRIANGULAR HALF BLOCKkRIGHT AND LOWER TRIANGULAR THREE QUARTERS BLOCK",
   "gBLADE SCISSORSgFIVE EIGHTHS BLOCKgHALF BLOCKq AND LOWER HALF INVERSE MEDIUM SHADElCIRCLE",
   "lINVERSE MEDIUM SHADE AND LOWER HALF BLOCKtWHITE CIRCLElMEDIUM SHADE",
   "gLEFT BLOCK DIAGONAL LOWER CENTRE TO LOWER MIDDLE RIGHTzrUPPER MIDDLE RIGHTzxRIGHT",
   "zhLEFT TO LOWER MIDDLE RIGHTzpUPPER CENTREzvMIDDLE RIGHTzhMIDDLE LEFT TO UPPER CENTRE",
   "zzdMIDDLE RIGHTzzdRIGHTzbUPPER MIDDLE LEFT TO UPPER CENTREzzdRIGHTlCORNER WITH DOT",
   "lOR LOWER RIGHT CURLY BRACKET SECTIONlQUADRANT CIRCULAR ARClTO LOWER RIGHT FILLmRIANGLE",
   "rULAR MEDIUM SHADEgONE EIGHTH BLOCKkQUARTER BLOCK",
   "gRIGHT BLOCK DIAGONAL LOWER MIDDLE LEFT TO LOWER CENTREzzeRIGHT",
   "zcUPPER CENTRE TO LOWER MIDDLE RIGHTzyRIGHTzsUPPER MIDDLE RIGHTziLEFT TO LOWER CENTRE",
   "zwMIDDLE RIGHTzqUPPER MIDDLE RIGHTziMIDDLE LEFT TO LOWER CENTREzzeMIDDLE RIGHTzzeRIGHT",
   "mDROP-SHADOWED WHITE SQUAREmOR LOWER LEFT CURLY BRACKET SECTIONmPENCILmQUADRANT CIRCULAR ARC",
   "mSHADOWED WHITE CIRCLEzcSQUAREmTO LOWER LEFT FILLnRIANGLEsULAR MEDIUM SHADE",
   "gSEVEN EIGHTHS BLOCKgTHREE EIGHTHS BLOCKmQUARTERS BLOCKhRIANGULAR ONE QUARTER BLOCK",
   "cSIDE-DOWN FACEcWARDS ANCORAjRROWn AND RIGHT ONE EIGHTH BLOCKoFROM BAR",
   "oLEFTWARDS OF DOWNWARDS ARROWoTO BARoWITH DOUBLE STROKEtEQUILATERAL ARROWHEAD",
   "tHORIZONTAL STROKEtLARGE TRIANGLE ARROWHEADtMEDIUM TRIANGLE ARROWHEADtNOTCHED TAIL",
   "tSMALL EQUILATERAL ARROWHEADzTRIANGLE ARROWHEADtTIP LEFTWARDSxRIGHTWARDSiBLACK ARROW",
   "oCIRCLED WHITE ARROWiCOMPRESSED ARROWiDASHED ARROWjOUBLE ARROWiFINGER-POST ARROW",
   "iHARPOON WITH BARB LEFT BESIDE DOWNWARDS HARPOON WITH BARB RIGHT",
   "znUPWARDS HARPOON WITH BARB RIGHTzgFROM BARzgTO BARzfWARDSzbRIGHT FROM BARzhTO BARzgWARDS",
   "jEAVY ARROWoCOMPRESSED ARROWiPAIRED ARROWSiQUADRUPLE ARROWiROCKETiSANS-SERIF ARROW",
   "jQUARED ARROWiTRIANGLE ARROWHEADq-HEADED ARROWze LEFTWARDS OF DOWNWARDS TRIANGLE-HEADED ARROW",
   "zfTO BARzfWITH BOLD SHAFTzkDOUBLE HORIZONTAL STROKEzkHEAVY SHAFTzkLONG TIP LEFTWARDS",
   "ztRIGHTWARDSzkMEDIUM SHAFTzkNARROW SHAFTzkVERY HEAVY SHAFTyDASHED ARROWyPAIRED ARROWS",
   "lPLE ARROWjWO HEADED ARROWl-HEADED ARROW FROM SMALL CIRCLEzWITH TRIANGLE ARROWHEADS",
   "iWHITE ARROWt FROM BARzd WITH HORIZONTAL BARuON PEDESTALzg WITH HORIZONTAL BARzmVERTICAL BAR",
   "uWITHIN TRIANGLE ARROWHEADoDOUBLE ARROWzb ON PEDESTALbRANUSbSaVAI COMMAeDIGIT EIGHTkFIVElOUR",
   "kNINEkONEkSEVENlIXkTHREElWOkZEROeFULL STOPeQUESTION MARKeSYLLABLE AoNnBAoEpEoHApEqEpIpOqOpUoI",
   "oOpOoUnCAoEpEoIoOpOoUnDAoEpEoHApEqEpHAqErEqIqOrOqUpIpOqOpUoIoOpOoUnEoEpNoNnFAoEpEoIoOpOoUnGA",
   "oBApEqEqNpIpOqNqOpUoEpEpNoIoOpOoUnHApNoEpEpNoIpNoOpNpOoUpNnIoNnJAoEpEoIoOpOoUnKApNoEpEoIoOpO",
   "oPAqNpEqEqNpIpOqOpUoUnLAoEpEpNGTHENERoIoOpOoUnMAoBApEqEpIpOqOpUoEpEoGBAqErEqIqOrOqUoIoOpOoUnNA",
   "oDApEqEpIpOqLE DOtFAtKAtMAtSOOqOpUoEpEoGpANpENpGAqErErNqIqOrOqUpONoIoJApEqEpIpOqOpUoOpOoUoYApE",
   "qEpIpOqOpUnOoNoOpNnPAoEpEoIoOpOoUnRAoEpEoIoOpOoUnSAoEpEoHApEqEpIpOqOpUoIoOpOoUnTAoEpEoHApEqEpI",
   "pOqOpUoIoOpOoUnUoNnVAoEpEoIoOpOoUnWApNoEpEqNpNoIpNoOpNpOqNoUpNnYAoEpEoIoOpOoUnZAoEpEoHApEqEpI",
   "pOqOpUoIoOpOoUgMBOL BANGlDANGmO-OnONGlFAAmEENGlJONGlKEENGmUNGlNIIlTAAmINGmONGcMPIRE",
   "cRIATION SELECTOR-1u0v0v1v2v3v4v5v6v7v8v9u1v0v1v2v3v4v5v6v7v8v9u2v0v1v2v3v4v5v6v7v8v9u3v0v1v2",
   "v3v4v5v6v7v8v9u4v0v1v2v3v4v5v6v7v8v9u5v0v1v2v3v4v5v6v7v8v9u6v0v1v2v3v4v5v6v7v8v9u7v0v1v2v3v4v5",
   "v6v7v8v9u8v0v1v2v3v4v5v6v7v8v9u9v0v1v2v3v4v5v6v7v8v9t2u0v0v1v2v3v4v5v6v7v8v9u1v0v1v2v3v4v5v6v7",
   "v8v9u2v0v1v2v3v4v5v6v7v8v9u3v0v1v2v3v4v5v6v7v8v9u4v0v1v2v3v4v5v6v7v8v9u5v0v1v2v3v4v5v6u6u7u8u9",
   "t3u0u1u2u3u4u5u6u7u8u9t4u0u1u2u3u4u5u6u7u8u9t5u0u1u2u3u4u5u6u7u8u9t6u0u1u2u3u4u5u6u7u8u9t7u0u1",
   "u2u3u4u5u6u7u8u9t8u0u1u2u3u4u5u6u7u8u9t9u0u1u2u3u4u5u6u7u8u9bECTOR OR CROSS PRODUCT",
   "cDIC SIGN ANUSVARA ANTARGOMUKHAuBAHIRGOMUKHAuUBHAYATO MUKHAuVAMAGOMUKHAzg WITH TAIL",
   "mRDHAVISARGAmTIKRAMAlDOUBLE ANUSVARA ANTARGOMUKHAlHEXIFORM LONG ANUSVARAlJIHVAMULIYA",
   "lLONG ANUSVARAlNIHSHVASAlREVERSED VISARGA ANUDATTAzdUDATTAmOTATED ARDHAVISARGA",
   "mTHANG LONG ANUSVARAlTIRYAKlUPADHMANIYAlVISARGA ANUDATTAzc WITH TAILtSVARITAtUDATTAz WITH TAIL",
   "lYAJURVEDIC MIDLINE SVARITAgTONE ATHARVAVEDIC INDEPENDENT SVARITAlCANDRA ABOVEsBELOWlDOT BELOW",
   "nUBLE RING ABOVEsSVARITAlKARSHANAnTHAKA ANUDATTAlPRENKHAlRIGVEDIC KASHMIRI INDEPENDENT SVARITA",
   "nNG ABOVElSHARAlTHREE DOTS BELOWmRIPLE SVARITAmWO DOTS BELOW",
   "lYAJURVEDIC AGGRAVATED INDEPENDENT SVARITAwINDEPENDENT SVARITAwKATHAKA INDEPENDENT SVARITA",
   "zy SCHROEDERcRSICLEdTICAL BAR BESIDE RIGHT TRIANGLEnDOUBLE LEFT TURNSTILE",
   "nTRIPLE RIGHT TURNSTILEnWITH HORIZONTAL STROKEjELLIPSISjFOUR DOTSjIDEOGRAPHIC ITERATION MARK",
   "jKANA REPEAT MARKz LOWER HALFzbUPPER HALFvWITH VOICED SOUND MARKzs UPPER HALFjLINEn EXTENSION",
   "oWITH CIRCLE ABOVEzbBELOWtMIDDLE DOTjMALE WITH STROKE SIGNjONE EIGHTH BLOCK-2zb3zb4zb5zb6zb7",
   "jSIX DOTSjTAB KEYmULATIONt SETkILDEkRAFFIC LIGHTjZIGZAG LINEdY BOLD GREEK CROSS",
   "fHEAVY EIGHT POINTED BLACK STARrSPOKED ASTERISKlFIVE SPOKED ASTERISKlGREEK CROSS",
   "lREVERSE SOLIDUSlSALTIREmIX SPOKED ASTERISKmOLIDUSlWHITE CIRCLErSQUAREfMUCH GREATER-THAN",
   "kLESS-THANcSTAbIBRATION MODEcCTORY HANDcDEO CAMERAgGAMEfCASSETTE",
   "cETNAMESE ALTERNATE READING MARK CAzjNHAYdWDATA SQUAREcOLINcRGOcTHKUQI CAPITAL LETTER AyBBEzE",
   "yCEzHEyDEzHEyEzIyFEyGAyHAzHAyIzJEyJEyKAyLAzLAyMEyNEzJEyOyPEyQAyREySEzHEyTEzHEyUyVEyXEyYyZE",
   "jSMALL LETTER AwBBExEwCExHEwDExHEwExIwFEwGAwHAxHAwIxJEwJEwKAwLAxLAwMEwNExJEwOwPEwQAwREwSExHE",
   "wTExHEwUwVEwXEwYwZEbOIDED GREEK CROSScLCANOdLEYBALLdUME INTEGRALbS1d0e0e1e2e3e4e5e6e7e8e9d1e0",
   "e1e2e3e4e5e6e7e8e9d2e0e1e2e3e4e5e6e7e8e9d3e0e1e2e3e4e5e6e7e8e9d4e0e1e2e3e4e5e6e7e8e9d5e0e1e2e3",
   "e4e5e6e7e8e9d6e0e1e2e3e4e5e6e7e8e9d7e0e1e2e3e4e5e6e7e8e9d8e0e1e2e3e4e5e6e7e8e9d9e0e1e2e3e4e5e6",
   "e7e8e9c2d0e0e1e2e3e4e5e6e7e8e9d1e0e1e2e3e4e5e6e7e8e9d2e0e1e2e3e4e5e6e7e8e9d3e0e1e2e3e4e5e6e7e8",
   "e9d4e0e1e2e3e4e5e6e7e8e9d5e0e1e2e3e4e5e6d6d7d8d9c3d0d1d2d3d4d5d6d7d8d9c4d0d1d2d3d4d5d6d7d8d9c5",
   "d0d1d2d3d4d5d6d7d8d9c6d0d1d2d3d4d5d6d7d8d9c7d0d1d2d3d4d5d6d7d8d9c8d0d1d2d3d4d5d6d7d8d9c9d0d1d2",
   "d3d4d5d6d7d8d9bTcSbULCANUSdGAR FRACTION FIVE EIGHTHSvSIXTHSrOUR FIFTHSqONE EIGHTHuFIFTHuHALF",
   "uNINTHuQUARTERuSEVENTHvIXTHuTENTHvHIRDqSEVEN EIGHTHSqTHREE EIGHTHSwFIFTHSwQUARTERSrWO FIFTHS",
   "uTHIRDSqZERO THIRDSaWAFFLEcNCHO DIGIT EIGHTnFIVEoOURnNINEnONEnSEVENoIXnTHREEoWOnZEROhLETTER A",
   "pAqNrGpNGpUoBAoCAoDAoEpNoFAoGAoHAoIpNGoJAoKApHAoLApLHAoMAoNApGApYAoOpNqGoPApHAoRAoSApHAoTApHA",
   "pRApSAoUpENoVAoWAoYApIHoZAhNGUN SIGNhTONE KOIpNImTUPpNIdING CRESCENT MOON SYMBOL",
   "hGIBBOUS MOON SYMBOLcRANG CITI CAPITAL LETTER AzdMzdNGzdTzcBUzcDAzcEzdNNzeYzcGAzcHARzdIYOzdOLO",
   "zeRRzcIIzcKOzcNGAAzdUNGzcOzdDDzcPUzcSIIzdSUUzcTTEzcUCzdUzcVIYOzcWIzcYAzdOzdUzeJmDIGIT EIGHT",
   "sFIVEtOURsNINEsONEsSEVENtIXsTHREEtWOsZEROmNUMBER EIGHTYtFIFTYuORTYtNINETYtSEVENTYuIXTYtTEN",
   "uHIRTYuWENTYmOMmSMALL LETTER AzbMzbNGzbTzBUzDAzEzbNNzcYzGAzHARzbIYOzbOLOzcRRzIIzKOzNGAAzbUNGzO",
   "zbDDzPUzSIIzbSUUzTTEzUCzbUzVIYOzWIzYAzbOzbUzcJdNING SIGNcSTEBASKETcTCHdER BUFFALOgCLOSETgPOLO",
   "gWAVEfMELONcVE ARROW POINTING DIRECTLY LEFTzeRIGHTfDASHdING BLACK FLAGhHAND SIGNhWHITE FLAG",
   "dY DASHfLINEgOW LINEfOVERLINEcXING CRESCENT MOON SYMBOLhGIBBOUS MOON SYMBOLbEARY CAT FACEgFACE",
   "cDDINGdGE-TAILED RIGHTWARDS ARROWcIERSTRASS ELLIPTIC FUNCTIONdGHT LIFTERcST SYRIAC CROSSbHALE",
   "cEELf OF DHARMAfCHAIR SYMBOLcITE ARROW SHAFT WIDTH ONEyTWO THIRDSgBULLETgCHESS BISHOP",
   "s ROTATED NINETY DEGREESzcTWO HUNDRED SEVENTY DEGREESmEQUIHOPPERw ROTATED NINETY DEGREESmKING",
   "q ROTATED NINETY DEGREESzTWO HUNDRED SEVENTY DEGREESnNIGHTs ROTATED FORTY-FIVE DEGREES",
   "zcNINETY DEGREESzcONE HUNDRED THIRTY-FIVE DEGREESzcTHREE HUNDRED FIFTEEN DEGREES",
   "zdWO HUNDRED SEVENTY DEGREESzoTWENTY-FIVE DEGREESs-BISHOPtQUEENtROOKmPAWN",
   "q ROTATED NINETY DEGREESzTWO HUNDRED SEVENTY DEGREESmQUEENr ROTATED NINETY DEGREES",
   "zbTWO HUNDRED SEVENTY DEGREESmROOKq ROTATED NINETY DEGREESzTWO HUNDRED SEVENTY DEGREES",
   "mTURNED BISHOPtKINGuNIGHTtPAWNtQUEENtROOKhIRCLEm CONTAINING BLACK SMALL CIRCLEnWITH DOT RIGHT",
   "uWN ARROWsLOWER LEFT QUADRANTyRIGHT QUADRANTsTWO DOTSsUPPER LEFT QUADRANTyRIGHT QUADRANT",
   "hLUB SUIThONCAVE-SIDED DIAMONDzc WITH LEFTWARDS TICKziRIGHTWARDS TICKgDIAMOND",
   "n CONTAINING BLACK MEDIUM DIAMONDzgSMALL DIAMONDzgVERY SMALL DIAMONDoIN SQUAREoSUIT",
   "oWITH CENTRED DOThOWN POINTING BACKHAND INDEXuINDEXuLEFT HAND INDEXk-POINTING SMALL TRIANGLE",
   "uTRIANGLEhRAUGHTS KINGpMANgEXCLAMATION MARK ORNAMENTgFLAGk WITH HORIZONTAL MIDDLE BLACK STRIPE",
   "iORETTEjWERhOUR POINTED CUSPtSTARhROWNING FACEgHARD SHELL FLOPPY DISKhEARTl SUITjVY CHECK MARK",
   "mSALTIRE WITH ROUNDED CORNERSiXAGONhORIZONTAL ELLIPSEiURGLASSgLARGE SQUAREiTIN CROSS",
   "hEFT LANE MERGElPOINTING BACKHAND INDEXuINDEXk-POINTING POINTERuSMALL TRIANGLEuTRIANGLE",
   "hOZENGE CONTAINING BLACK SMALL LOZENGEgMEDIUM DIAMONDnLOZENGEnSMALL SQUAREoQUAREoTAR",
   "hOON SELENAgNIBgPARALLELOGRAMhENNANTjTAGONgQUESTION MARK ORNAMENTgRECTANGLE",
   "hIGHT POINTING BACKHAND INDEXvINDEXl-POINTING PENTAGONwOINTERvSMALL TRIANGLEvTRIANGLEgSCISSORS",
   "hESAME DOThHOGI PIECEhMALL LOZENGEmSQUAREnTARiILING FACEhPADE SUIThQUAREm BUTTON",
   "nCONTAINING BLACK MEDIUM SQUAREzfSMALL SQUAREzfVERY SMALL SQUAREnWITH CENTRE VERTICAL LINE",
   "sLEFTWARDS TICKtOWER LEFT QUADRANTyRIGHT QUADRANTsRIGHTWARDS TICKtOUNDED CORNERS",
   "sUPPER LEFT QUADRANTyRIGHT QUADRANTsVERTICAL BISECTING LINEhTARhUNj BEHIND CLOUDw WITH RAIN",
   "kWITH RAYSpSMALL CLOUDgTELEPHONEhOUCHTONE TELEPHONEhRAPEZIUM",
   "iIANGLE CONTAINING SMALL WHITE TRIANGLEhWO-WAY LEFT WAY TRAFFICgUP POINTING BACKHAND INDEX",
   "sINDEXi-POINTING CHEVRONsSMALL TRIANGLEsTRIANGLEzb WITH DOTgVERTICAL BARpELLIPSEpRECTANGLE",
   "jY SMALL SQUAREf-FEATHERED RIGHTWARDS ARROWbIDE-HEADED DOWNWARDS BARB ARROWwHEAVY BARB ARROW",
   "wLIGHT BARB ARROWwMEDIUM BARB ARROWwVERY HEAVY BARB ARROWmLEFTWARDS BARB ARROW",
   "wHEAVY BARB ARROWwLIGHT BARB ARROWwMEDIUM BARB ARROWwVERY HEAVY BARB ARROW",
   "mNORTH EAST BARB ARROWxHEAVY BARB ARROWxLIGHT BARB ARROWxMEDIUM BARB ARROW",
   "xVERY HEAVY BARB ARROWsWEST BARB ARROWxHEAVY BARB ARROWxLIGHT BARB ARROWxMEDIUM BARB ARROW",
   "xVERY HEAVY BARB ARROWmRIGHTWARDS BARB ARROWxHEAVY BARB ARROWxLIGHT BARB ARROW",
   "xMEDIUM BARB ARROWxVERY HEAVY BARB ARROWmSOUTH EAST BARB ARROWxHEAVY BARB ARROW",
   "xLIGHT BARB ARROWxMEDIUM BARB ARROWxVERY HEAVY BARB ARROWsWEST BARB ARROWxHEAVY BARB ARROW",
   "xLIGHT BARB ARROWxMEDIUM BARB ARROWxVERY HEAVY BARB ARROWmUPWARDS BARB ARROWuHEAVY BARB ARROW",
   "uLIGHT BARB ARROWuMEDIUM BARB ARROWuVERY HEAVY BARB ARROWcGGLY VERTICAL LINEcLTED FLOWER",
   "cND BLOWING FACEfCHIMEeOWdE GLASSdKING FACEcRED KEYBOARDbJbOLF FACEcMANf WITH BUNNY EARS",
   "fS BOOTShCLOTHEShHAThSANDALdENS SYMBOLcN SIGNcODcRD JOINERfSEPARATOR MIDDLE DOTdLD MAPdM",
   "dRIED FACEbRAPPED PRESENTcEATH PRODUCTdNCHdSTLERScITING HANDaX IN A RECTANGLE BOXb-RAY",
   "bIANGQI BLACK CANNONpHARIOToELEPHANToGENERALoHORSEoMANDARINoSOLDIERiRED CANNONnHARIOTmELEPHANT",
   "mGENERALmHORSEmMANDARINmSOLDIERbORaYAWNING FACEbELLOW HEARTcN SIGNcZIDI COMBINING HAMZA MARK",
   "rMADDA MARKhHYPHENATION MARKhLETTER BEoCHHIMqIMpIMoDADqLoELIFpTpWpYNoFAoGAFoHAYpHAoJAoKAFpHAF",
   "oLAMr WITH DOT ABOVEoMIMoNUNoOWoPEpHEoQAFoRApHAoSADpEpHINpINoTApHEoUMoVAq ALTERNATE FORMoWAW",
   "oXApHEYNoYOTr WITH CIRCUMFLEX ABOVEoZAqLpEbI RADICAL BBUTmURlCHEmIPmUOPmYnPnTlDDURmUlGAmEPmGOP",
   "nUOmOTlHMOmXITnOPnUOlJJIEnUTnYmOlKEmITlLInEmYRlMImOPlNBIEmYIPnOPmZUPlOPlPUTmYTlQOTlSHATnOPnUR",
   "nYmSIlTATmUlVEPmURlWOlYITmOlZAmOTmUPnRmZIETdSYLLABLE AnPnTnXmBAoPoToXnBApPpTpXoEpPpXoIpEqPqTqX",
   "pPpTpXoOpPpTpXoUpOqPqXpPpRqXpTpXoYpPpTpXnEoPoXnIoEpPpTpXoPoToXnOoPoToXnUoOpPpXoPoRpXoToXnYoPoR",
   "pXoToXmCAoPoToXnEoPoXnHApPpTpXoEpPpTpXoOpPpTpXoUpOqPqTqXpPpRqXpXoYpPpRqXpTpXnIoEpPpTpXoPoToXnO",
   "oPoToXnUoOpPpXoPoRpXoToXnYoPoRpXoToXmDAoPoToXnDApPpTpXoEpPpXoIpEqPqXpPpTpXoOpPpTpXoUpOqPqXpPpR",
   "qXpTpXnEoPoXnIoEpPpXoPoToXnOoPoToXnUoOpXoPoRpXoToXmEnXmFAoPoToXnIoPoToXnOoPoXnUoPoRpXoToXnYoP",
   "oToXmGAoPoToXnEoPoToXnGApPpTpXoEpPpTpXoIpEqPqXpTpXoOpPpTpXoUpOqPqTqXpPpRqXpTpXnIoEpPpTpXoPoToX",
   "nOoPoToXnUoOpPpTpXoPoRpXoToXmHAoPoToXnEoPoXnIEpXoTnLApPpTpXoEpPpXoIpEqPqXpPpTpXoOpPpXoUpOqPqX",
   "pPpRqXpTpXoYpPpRqXpTpXnMApPpTpXoIpEqPqXpPpTpXoOpPpTpXoUpOqPqXpPpRqXpTpXoYpPpRqXpXnNApPpTpXoEpP",
   "pXoIpEqPqTqXpPpTpXoOPpTpXoUOqXpTnOoPoToXnUOpPpTpXnXApPpTpXoEpPpXoIpEqPqTqXpPpTpXoOpPpTpXoUOqP",
   "qTqXmInEoPoToXnPnToERATION MARKnXmJIoEpPpTpXoPoToXnJIpEqPqTqXpPpTpXoOpPpTpXoUpOqPqXpPpRqXpTpX",
   "oYpPpTpXnOoPoToXnUoOpPpTpXoPoRpXoToXnYoPoRpXoToXmKAoPoToXnEoPoToXnIoEpPpXoPoToXnOoPoToXnUoOpP",
   "pXoPoRpXoToXmLAoPoToXnEoPoXnIoEpPpTpXoPoToXnOoPoToXnUoOpPpTpXoPoRpXoToXnYoPoRpXoToXmMAoPoToXnE",
   "oXnGApPpTpXoEpPpXoIEqXoOpPpTpXoUpOqPqXpPpRqXpTpXnIoEpPpXoPoToXnOoPoToXnUoOpPpTpXoPoRpXoToXnYoP",
   "oToXmNAoPoXnBApPpTpXoIpEqPqXpPpTpXoOpPpTpXoUpPpRqXpTpXoYpPpRqXpTpXnDApPpTpXoEpPpXoIpEqXpPpTpX",
   "oOpPpTpXoUpPpRqXpTpXnEoPoXnGApPpTpXoEpPpXoIEqPqXoOpPpTpXoUOqTqXnIoEpPpXoPoToXnJIpEqPqTqXpPpTpX",
   "oOpPpTpXoUpOqXpPpRqXpXoYpPpRqXpTpXnOoPoToXnRApPpTpXoEpPpTpXoOpPpXoUpPpRqXpTpXoYpPpRqXpTpXnUoO",
   "pPpXoPoRpXoToXnYIpEqPqTqXpPpTpXoOpPpTpXoUpOqPqXpPpTpXnZApPpTpXoEpXoIpEqPqXpPpTpXoOPpXoUpOqXpP",
   "pRqXpXoYpPpRqXpTpXmOnPnTnXmPAoPoToXnIoEpPpXoPoToXnOoPoToXnUoOpPpXoPoRpXoToXnYoPoRpXoToXmQIoEpP",
   "pTpXoPoToXnOoPoToXnUoOpPpTpXoPoRpXoToXnYoPoRpXoToXmRAoPoToXnEoPoXnOoPoToXnRApXoEpPpTpXoOpPpTpX",
   "oUpOqXpPpRqXpTpXoYpPpRqXpTpXnUoOpPpXoPoRpXoToXnYoPoRpXoToXmSAoPoToXnEoPoXnHApPpTpXoEpPpTpXoOpP",
   "pTpXoUpOqPqXpPpRqXpTpXoYpPpRqXpTpXnIoEpPpXoPoToXnOoPoToXnSApPpTpXoEpPpXoIpEqPqXpPpTpXoOpPpTpX",
   "oUpPpTpXoYpPpRqXpTpXnUoOpPpXoPoRpXoToXnYoPoRpXoToXmTAoPoToXnEoPoXnIoEpPpXoPoToXnOoPoToXnUoOpP",
   "pTpXoPoRpXoToXmUOoPoXmVAoPoToXnEPoXnIoEpPpTpXoPoToXnOoPoToXnUoPoRpXoToXnYoPoRpXoToXmWAoPoToXnE",
   "oPoXnOoPoXnUoOpPpXmXIoEpPpTpXoPoToXnOoPoToXnUOpXnYoPoRpXoToXmYIoEpPpTpXoPoToXnOoPoToXnUoOpPpT",
   "pXoPoRpXoToXnYoPoRpXoToXmZAoPoToXnEoPoXnHApPpTpXoEpPpTpXoOpPpTpXoUpOqPqXpPpRqXpTpXoYpPpRqXpTpX",
   "nIoEpPpXoPoToXnOoPoToXnUoOpPpXoPoRpXoToXnYoPoRpXoToXnZApPpTpXoEpPpXoIpEqPqTqXpPpTpXoOpPpXoUpP",
   "pRqXpXoYpPpRqXpTpXcN YANGbO-YOaZ NOTATION BAG MEMBERSHIPlDOMAIN ANTIRESTRICTION",
   "lLEFT BINDING BRACKETqIMAGE BRACKETlRANGE ANTIRESTRICTIONmELATIONAL COMPOSITION",
   "mIGHT BINDING BRACKETrIMAGE BRACKETlSCHEMA COMPOSITIONsPIPINGtROJECTIONmPOTlTYPE COLON",
   "bANABAZAR SQUARE CLOSING DOUBLE-LINED HEAD MARKzHEAD MARKtUSTER-FINAL LETTER LAznRAznVAznYA",
   "zINITIAL LETTER RArFINAL CONSONANT MARKrINITIAL DOUBLE-LINED HEAD MARKzHEAD MARKrLETTER -AyA",
   "yBAzHAyCAzHAyDAzDAzbHAzHAzZAzbHAyGAzHAyHAyJAyKAzHAzSSAyLAyMAyNAzGAzNAzYAyPAzHAyRAySAzHAzSAyTA",
   "zHAzSAzbHAzTAzbHAyVAyYAyZAzHArMARK DOUBLE SHADwLONG TSHEGwSHADwTSHEGrSIGN ANUSVARA",
   "wCANDRA WITH ORNAMENTzdBINDUzi WITH ORNAMENTwVIRAMAySARGAsUBJOINERrVOWEL LENGTH MARKxSIGN AI",
   "zeUzdEzdIzdOzeEzdREVERSED IzdUzeEbEBRA FACEcRO WIDTH JOINERlNO-BREAK SPACEnN-JOINERlSPACEcUS",
   "bIPPER-MOUTH FACEbNAMENNY COMBINING ATTACHING VERTICAL OMETtLOWER TONAL RANGE INDICATOR",
   "tMARK BORZAYAyCHASHKAzg POLNAYAzURVED OMETyDEMESTVENNY ZADERZHKAzVOETOCHIE",
   "yGORAZDO NIZKO ON LEFTzqRIGHTznS KRYZHEM ON LEFTzzbRIGHTzhVYSOKOyKACHKAzRYZHze ON LEFTzUPNAYA",
   "yLOMKAyMALO POVYSHE ON LEFTzpRIGHTzmS KHOKHLOM ON LEFTzzbRIGHTzpRYZHEMznTRANNOyNIZKO ON LEFT",
   "ziRIGHTzfS KRYZHEM ON LEFTzsRIGHTyOBLACHKOzNzTSECHKAyPODCHASHIEzj WITH VERTICAL STROKEzcVERTKA",
   "zbVYSHE ON LEFTzkRIGHTzhS KHOKHLOM ON LEFTzvRIGHTzkRYZHEMziTRANNOyRAVNOzbZSEKAySKOBA",
   "zOROCHYA NOZHKAzREDNE ON LEFTzjRIGHTzTRANNO MALO POVYSHEyTIKHAYAzOCHKAzSATA ON LEFTziRIGHT",
   "zfS KRYZHEMyUDARKAyVYSOKO ON LEFTzjRIGHTzgS KHOKHLOM ON LEFTzuRIGHTzjRYZHEMyZADERZHKAzELOzbVOK",
   "tTONAL RANGE MARK MRACHNOzlSVETLOzlTRESVETLOjNEUME CHASHKArELYUSTKApDEMESTVENNY KLYUCHrRBITSA",
   "qOUBLE ZAPYATAYAqUDAqVA V CHELNUpFITApGOLUBCHIK BORZYzMRACHNYzSVETLYzTIKHYzbRESVETLYpKHAMILO",
   "qLYUCHqOBYLAqRYUKu TIKHYsZHqUFISMApMECHIKv KLYUCHENEPOSTOYANNYzePOVODNYzeVOYwPOVODNYpNEMKA",
   "pOBLAKOqSOKAu KLYUCHEVAYA NEPOSTOYANNAYAziSVETLAYAwRYUKOVAYA SVETLAYAvSVETLAYAvTRESVETLAYA",
   "pPALKArRAKLITrUKqEREVODKAy NEPOSTOYANNAYAqODCHASHIErLKULIZMYpREVERSED CHELYUSTKAqOG",
   "pSKAMEYTSA DVOECHELNAYA KLYUCHEVAYAznNEPOSTOYANNAYAznPROSTAYAznSVETLAYAzKLYUCHENEPOSTOYANNAYA",
   "zhVAYA SVETLAYAzmTIKHAYAzMRACHNAYAzSVETLAYAzTIKHAYAzbRESVETLAYAqLOZHITIEy S KRYZHEMzcZAPYATOY",
   "zZAKRYTOEqTATYAv NEPOSTOYANNAYAwS DVUMYA ZAPYATYMIyKRYZHEMzg I ZAPYATOYyROGOMyZAPYATOY",
   "zh I KRYZHEMzkPODCHASHIEMwZAKRYTAYAzg S ZAPYATOYrOPITSAx S OCHKOMyWITH SOROCHYA NOZHKA",
   "rRELA DVOECHELNAYAzj KLYUCHEVAYAzgOKRYZHEVAYAzhPOVODNAYAzq KLYUCHEVAYAwGROMNAYA",
   "zf WITH SINGLE ZAPYATAYAzbOKRYZHEVAYAzm POVODNAYAzcPOVODNAYAzl WITH DOUBLE ZAPYATAYA",
   "zrSINGLE ZAPYATAYAwKLYUCHENEPOSTOYANNAYAzePOVODNAYAxRYUKOVAYAzh GROMNAYA",
   "zq WITH SINGLE ZAPYATAYAzmOKRYZHEVAYAzx POVODNAYAznPOVODNAYAzw WITH DOUBLE ZAPYATAYA",
   "zzdSINGLE ZAPYATAYAziPOVODNAYAziTRYASKAzZHEVAYAwMRACHNOTIKHAYAwNEPOSTOYANNAYAwPOLUPOVODNAYA",
   "yVODNAYAxROSTAYAwTIKHAYA PUTNAYAxRYASOGLASNAYAzdPOVODNAYAzdSTRELNAYA",
   "pVRAKHIYA KLYUCHEVAYA MRACHNAYAzlPROSTAYAzlSVETLAYAzlTRESVETLAYAyMRACHNAYAyPROSTAYAySVETLAYA",
   "yTRESVETLAYApZANOZHEKrPYATAYAqMEYTSAjPRIZNAK MODIFIER DIRECTION FLIPzbKRYZHzbLEVEL-2zh3zbROG",
   "bOMBIEbWJcNBSPdJcSP"]

end SolidityAtlas.Text.CharacterNames
